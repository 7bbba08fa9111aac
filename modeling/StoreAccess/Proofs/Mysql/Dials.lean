import StoreAccess.Proofs.Cache.Refusals
import StoreAccess.Proofs.Config.Checks
import StoreAccess.Proofs.Mysql.Transcripts

/-! Dials of relational databases fail as dials only. A pool of connections is set up with bounds that the library
    for pools has to take, and with what stands for zero it takes them; whatever goes wrong afterwards, on the way to
    the server or in it, is told as an error of dialing. -/

namespace StoreAccess
namespace Mysql

variable {σ : Type} {takes : Nat → Nat → Bool} {config : RelationalConfig} {e : Error}

/-- A library for pools takes bounds in their order if they leave room for a connection. -/
def TakesRoom (takes : Nat → Nat → Bool) : Prop :=
  ∀ least most, least ≤ most → 0 < most → takes least most = true

theorem takesRoom_boundsInOrder : TakesRoom boundsInOrder := fun _ _ fits _ => decide_eq_true fits

theorem setUp_eq (room : TakesRoom takes) (config : RelationalConfig) :
    Dialogue.setUp takes config (BackendConfig.pool config) = .dial config :=
  if_pos (room 0 _ (Nat.zero_le _) (PoolSettings.maxOpen_ofCounts_pos _ _ _))

theorem category_of_dial {said : List Exchange} (path : (Dialogue.dial config).Path said (some (.error e))) :
    e.category = .dial := by
  rcases Dialogue.path_andThen path with ⟨-, none⟩ | ⟨r, _, _, -, -, second⟩
  · cases none
  · cases r with
    | ok =>
      cases second with
      | log more => cases more
    | error =>
      cases second
      rfl

/-- What a client replies to a dial about which it held a dialogue, or was still to hold it when the time was over. -/
def RepliesBy (d : Dialogue (Except Error Unit)) (server : TimedServer σ) (options : CacheOptions)
    (request : Request RelationalConfig) (r : Reply SqlAnswer) : Prop :=
  r = .overdue ∨ ∃ line : Line σ, (line.hold server options request d fun _ => .success).2.reply = some r

variable {server : TimedServer σ} {options : CacheOptions}

theorem repliesBy_of_conduct {line : Line σ} {call? : Option SqlCall} {pool : PoolSettings} {r : Reply SqlAnswer}
    (replied : ((client server options).conduct line call? (.dial config pool)).2.reply = some r) :
    RepliesBy (.setUp boundsInOrder config pool) server options (.dial config pool) r :=
  Or.inr ⟨line, replied⟩

theorem category_of_reply {request : Request RelationalConfig}
    (replies : RepliesBy (.dial config) server options request (.failure e)) : e.category = .dial := by
  rcases replies with overdue | ⟨line, reply⟩
  · cases overdue
  · have path := Dialogue.path_holdWithin server ((request.limit? options).map Timeline.roundUp) (.dial config)
      line.server 0
    simp only [Line.hold, Option.some.injEq] at reply
    generalize (Dialogue.holdWithin _ _ _ _ _ : Held σ (Except Error Unit)).result = result at path reply
    match result with
    | none => cases reply
    | some (.ok _) => cases reply
    | some (.error e') =>
      cases reply
      exact category_of_dial path

/-- Each dial that comes to an end in a run is a pool set up, and a dialogue held with the server about it. -/
def DialsThrough (takes : Nat → Nat → Bool) (server : TimedServer σ) (options : CacheOptions)
    (h : History RelationalConfig SqlAnswer) : Prop :=
  ∀ x ∈ h, ∀ j config pool r, x.exchange? j = some (.dial config pool, r) →
    RepliesBy (Dialogue.setUp takes config pool) server options (.dial config pool) r

/-- Whatever the server does and however long it takes, an acquisition of the configuration fails with an error of
    dialing. -/
structure FailsByDial (options : CacheOptions) (config : RelationalConfig) : Prop where
  category : ∀ {σ : Type} {takes : Nat → Nat → Bool} {server : TimedServer σ} {backend : BackendKind}
    {order : EntryOrder} {c₀ c : Cache RelationalConfig SqlAnswer} {h : History RelationalConfig SqlAnswer} {i : Nat}
    {e : Error},
    TakesRoom takes → Cache.ofOptions backend options order = .ok c₀ → Run c₀ h c →
      DialsThrough takes server options h → h.calls[i]? = some (.acquire config) →
      c.answer? i = some (.leased (.error e)) → e.category = .dial

/-- This client adds nothing to what a dial may fail with. -/
theorem failsByDial (dialable : Dialable options config) : FailsByDial options config where
  category := by
    intro σ takes server backend order c₀ c h i e room new run through hcall answer
    obtain ⟨x, hx, r, asked, dial | ⟨-, rfl⟩⟩ := dialable.fails new run hcall answer
    · exact dial
    · have replies := through x hx i config _ _ asked
      rw [setUp_eq room] at replies
      exact category_of_reply replies

/-! ### Where nothing listens -/

def noServer : TimedServer Unit := ⟨fun s _ => (s, 0, .error .refused)⟩

/-- What a dial comes to where nothing listens. -/
def unreached (config : RelationalConfig) : Error :=
  .dial .relational ("failed to connect to " ++ config.displayUrl)
    (some (ClientFault.refused.during "failed to get connection").message)

theorem repliesBy_noServer (config : RelationalConfig) (pool : PoolSettings) (options : CacheOptions) :
    RepliesBy (.setUp boundsInOrder config pool) noServer options (.dial config pool)
      (.failure (unreached config)) := by
  have inTime (limit : Option Nat) : ¬limit.any (· < 0 + 0) = true := by cases limit <;> simp
  have held (limit : Option Nat) : ((Dialogue.dial config).holdWithin noServer limit () 0).result =
      some (.error (unreached config)) :=
    congrArg Held.result (Dialogue.holdWithin_of_intime (inTime limit))
  have replied : ((client noServer options).conduct ⟨(), [], []⟩ none (.dial config pool)).2.reply =
      some (.failure (unreached config)) := by
    simp only [client, Dialogue.setUp_boundsInOrder, Line.hold, held]
    rfl
  exact repliesBy_of_conduct replied

end Mysql
end StoreAccess
