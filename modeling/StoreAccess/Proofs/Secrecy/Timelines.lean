import StoreAccess.Cache.Timeline
import StoreAccess.Proofs.Secrecy.Caches

/-! Timelines that are alike stay alike, if the clients do: clients are alike if they take the same time, reply the
    same and make calls that are alike. So everything is ready and due at the same times in both. -/

namespace StoreAccess

variable {κ α σ : Type} [BackendConfig κ] {L : Likeness κ} {S : σ → σ → Prop}

variable (L) in
structure Conduct.Alike (c c' : Conduct κ α) : Prop where
  calls : List.Forall₂ (Call.Alike L) c.calls c'.calls
  delay : c.delay = c'.delay
  reply : c.reply = c'.reply

variable (L S) in
/-- In states that correspond the clients do the same, and go on to states that correspond. -/
def Client.Alike (client client' : Client κ α σ) : Prop :=
  ∀ {s s' : σ} (i : Nat) {r r' : Request κ}, S s s' → r.Alike L r' →
    S (client.conduct s i r).1 (client'.conduct s' i r').1 ∧
      (client.conduct s i r).2.Alike L (client'.conduct s' i r').2

variable (L) in
inductive Owner.Alike : Owner κ α → Owner κ α → Prop
  | caller : Alike .caller .caller
  | probe (p : Nat) : Alike (.probe p) (.probe p)
  | operation (i : Nat) {rest rest' : Conduct κ α} (conduct : rest.Alike L rest') :
      Alike (.operation i rest) (.operation i rest')

variable (L S) in
structure Timeline.Alike (w w' : Timeline κ α σ) : Prop where
  cache : w.cache.Alike L w'.cache
  gone : w.gone = w'.gone
  client : S w.client w'.client
  now : w.now = w'.now
  ready : w.ready = w'.ready
  agenda : w.agenda = w'.agenda
  owners : List.Forall₂ (Owner.Alike L) w.owners w'.owners
  probes : w.probes = w'.probes
  dialed : List.Forall₂ L.Config w.dialed w'.dialed
  ended : w.ended = w'.ended
  alarms : w.alarms = w'.alarms
  rung : w.rung = w'.rung
  trace : List.Forall₂ (fun x x' => x.1 = x'.1 ∧ x.2.Alike L x'.2) w.trace w'.trace

namespace Timeline

theorem alike_of_new {backend : BackendKind} {options : CacheOptions} {order : EntryOrder} {c : Cache κ α} {s s' : σ}
    (new : Cache.ofOptions backend options order = .ok c) (clients : S s s') :
    (ofCache c s).Alike L S (ofCache c s') :=
  ⟨Cache.alike_of_new new, rfl, clients, rfl, rfl, rfl, .nil, rfl, .nil, rfl, rfl, rfl, .nil⟩

end Timeline

namespace Timeline.Alike

variable {w w' : Timeline κ α σ} (alike : w.Alike L S w') (i : Nat)

/-- The same choice in both. -/
theorem choice {v v' : Timeline κ α σ} {p q : Prop} [Decidable p] [Decidable q] (same : p ↔ q)
    (yes : w.Alike L S w') (no : v.Alike L S v') : (if p then w else v).Alike L S (if q then w' else v') := by
  by_cases chosen : p
  · rw [if_pos chosen, if_pos (same.mp chosen)]
    exact yes
  · rw [if_neg chosen, if_neg (chosen ∘ same.mpr)]
    exact no

include alike

theorem update {c c' : Cache κ α} (caches : c.Alike L c') : (w.update c).Alike L S (w'.update c') :=
  { alike with
    cache := { caches with events := .nil }
    trace := List.rel_append alike.trace
      (List.rel_map (fun _ _ event => ⟨alike.now, event⟩) caches.events) }

theorem log {e e' : LogEvent} (event : e.Alike L e') : (w.log e).Alike L S (w'.log e') :=
  { alike with trace := alike.trace.snoc ⟨alike.now, .log event⟩ }

theorem logPlain {e : LogEvent} (plain : LogEvent.Plain e.fields) : (w.log e).Alike L S (w'.log e) :=
  alike.log (LogEvent.alike_of_plain plain)

theorem soon (r : Runner) : (w.soon r).Alike L S (w'.soon r) :=
  { alike with ready := congrArg (r :: ·) alike.ready }

theorem later (r : Runner) : (w.later r).Alike L S (w'.later r) :=
  { alike with ready := congrArg (· ++ [r]) alike.ready }

theorem plan {time time' : Nat} {d d' : Due α} (times : time = time') (dues : d = d') :
    (w.plan time d).Alike L S (w'.plan time' d') :=
  { alike with agenda := by rw [Timeline.plan, Timeline.plan, times, dues, alike.agenda] }

theorem unplan : (w.unplan i).Alike L S (w'.unplan i) :=
  { alike with agenda := congrArg (List.filter _) alike.agenda }

theorem change {c c' : Cache κ α} (caches : c.Alike L c') : (w.change i c).Alike L S (w'.change i c') := by
  have stood := (alike.cache.phase? i).bind fun phase => phase.gate?
  have gate : ((w.phase? i).bind Phase.gate?).bind (letThrough? w.cache c) =
      ((w'.phase? i).bind Phase.gate?).bind (letThrough? w'.cache c') :=
    stood.bind_eq fun print => by simp only [letThrough?, caches.first?_eq print, alike.cache.first?_eq print]
  unfold Timeline.change
  rw [gate]
  split
  · exact (alike.update caches).later _
  · exact alike.update caches

/-! ### Tasks -/

theorem tasks_length_eq : w.cache.tasks.length = w'.cache.tasks.length := alike.cache.tasks.length_eq

theorem begin {call call' : Call κ} {owner owner' : Owner κ α} (calls : call.Alike L call')
    (owners : owner.Alike L owner') : (w.begin call owner).Alike L S (w'.begin call' owner') := by
  have begun : Timeline.Alike L S { w with cache := w.cache.start call, owners := w.owners ++ [owner] }
      { w' with cache := w'.cache.start call', owners := w'.owners ++ [owner'] } :=
    { alike with cache := alike.cache.start calls, owners := alike.owners.snoc owners }
  simp only [Timeline.begin, alike.tasks_length_eq]
  exact begun.soon _

theorem beginAfter (delay : Nat) {call call' : Call κ} (calls : call.Alike L call') :
    (w.beginAfter delay call).Alike L S (w'.beginAfter delay call') := by
  have begun : Timeline.Alike L S { w with cache := w.cache.start call, owners := w.owners ++ [.caller] }
      { w' with cache := w'.cache.start call', owners := w'.owners ++ [.caller] } :=
    { alike with cache := alike.cache.start calls, owners := alike.owners.snoc .caller }
  simp only [Timeline.beginAfter, alike.tasks_length_eq]
  split
  · exact begun.later _
  · exact begun.plan (congrArg (· + delay) alike.now) rfl

theorem phase? : Option.Rel (Phase.Alike L) (w.phase? i) (w'.phase? i) := alike.cache.phase? i

/-- Another handle is dialed if a dial succeeds. -/
theorem handed (r : Reply α) :
    Timeline.Alike L S
      (match w.phase? i, r with
        | some (.dialing target _), .success => { w with dialed := w.dialed ++ [target.config] }
        | _, _ => w)
      (match w'.phase? i, r with
        | some (.dialing target _), .success => { w' with dialed := w'.dialed ++ [target.config] }
        | _, _ => w') := by
  have there := alike.phase? i
  generalize w.phase? i = p, w'.phase? i = p' at there ⊢
  cases there with
  | none => exact alike
  | some phase =>
    cases phase with
    | dialing target =>
      cases r with
      | success => exact { alike with dialed := alike.dialed.snoc target }
      | _ => exact alike
    | _ => exact alike

theorem give (r : Reply α) : (w.give i r).Alike L S (w'.give i r) := by
  have replied := alike.cache.reply i r
  unfold Timeline.give
  generalize w.cache.reply i r = c, w'.cache.reply i r = c' at replied ⊢
  cases replied with
  | none => exact alike
  | some caches => exact (((alike.handed i r).unplan i).change i caches).soon (.task i)

theorem dropTask : (w.dropTask i).Alike L S (w'.dropTask i) :=
  (alike.unplan i).change i (alike.cache.drop i)

theorem owner? : Option.Rel (Owner.Alike L) w.owners[i]? w'.owners[i]? := alike.owners.getElem? i

theorem answer?_isNone_eq : (w.cache.answer? i).isNone = (w'.cache.answer? i).isNone := by
  have answered := alike.cache.answer? i
  generalize w.cache.answer? i = a, w'.cache.answer? i = a' at answered ⊢
  cases answered <;> rfl

theorem childrenOf_eq : w.childrenOf i = w'.childrenOf i := by
  unfold Timeline.childrenOf
  rw [alike.owners.length_eq]
  refine List.filter_congr fun j _ => ?_
  have owned := alike.owner? j
  rw [alike.answer?_isNone_eq j]
  generalize w.owners[j]? = o, w'.owners[j]? = o' at owned ⊢
  cases owned with
  | none => rfl
  | some owner => cases owner <;> rfl

theorem noteEnd : Timeline.Alike L S { w with ended := w.ended ++ [(i, w.now)] }
    { w' with ended := w'.ended ++ [(i, w'.now)] } :=
  { alike with ended := by rw [alike.ended, alike.now] }

theorem abort : (w.abort i).Alike L S (w'.abort i) := by
  have given := alike.dropTask i
  have owned := given.owner? i
  unfold Timeline.abort
  generalize w.dropTask i = v, w'.dropTask i = v' at given owned ⊢
  dsimp only
  generalize v.owners[i]? = o, v'.owners[i]? = o' at owned ⊢
  cases owned with
  | none => exact given.noteEnd i
  | some owner =>
    cases owner with
    | probe p => exact { given with probes := congrArg (List.modify · p _) given.probes }
    | caller | operation => exact given.noteEnd i

theorem conclude (r : Option (Reply α)) : (w.conclude i r).Alike L S (w'.conclude i r) := by
  cases r with
  | none => exact alike.abort i
  | some r => exact alike.give i r

theorem answerAfter (delay : Nat) (r : Option (Reply α)) :
    (w.answerAfter i delay r).Alike L S (w'.answerAfter i delay r) := by
  have later : w.now + delay = w'.now + delay := congrArg (· + delay) alike.now
  unfold Timeline.answerAfter
  rw [alike.agenda]
  split
  · exact alike.conclude i r
  · split
    · exact choice (by rw [later]) ((alike.unplan i).plan later rfl) alike
    · exact alike.plan later rfl

theorem proceed {c c' : Conduct κ α} (conduct : c.Alike L c') : (w.proceed i c).Alike L S (w'.proceed i c') := by
  obtain ⟨calls, delay, reply⟩ := c
  obtain ⟨calls', delay', reply'⟩ := c'
  obtain ⟨alikeCalls, rfl, rfl⟩ := conduct
  cases alikeCalls with
  | nil => exact alike.answerAfter i delay reply
  | cons call rest => exact alike.begin call (.operation i ⟨rest, rfl, rfl⟩)

variable {client client' : Client κ α σ}

theorem send (clients : client.Alike L S client') {r r' : Request κ} (requests : r.Alike L r') :
    (w.send client i r).Alike L S (w'.send client' i r') := by
  obtain ⟨states, conduct⟩ := clients i alike.client requests
  have taken : Timeline.Alike L S { w with client := (client.conduct w.client i r).1 }
      { w' with client := (client'.conduct w'.client i r').1 } := { alike with client := states }
  simp only [Timeline.send, requests.limit?_eq, alike.cache.options]
  cases r'.limit? w'.cache.options with
  | none => exact taken.proceed i conduct
  | some limit => exact (taken.plan (congrArg (· + roundUp limit) alike.now) rfl).proceed i conduct

/-! ### Probes -/

theorem setProbe (p : Nat) (state : ProbeState) : (w.setProbe p state).Alike L S (w'.setProbe p state) :=
  { alike with probes := congrArg (List.modify · p _) alike.probes }

theorem endProbe (p : Nat) : (w.endProbe p).Alike L S (w'.endProbe p) :=
  (alike.setProbe p _).logPlain LogEvent.plain_nil

theorem early_iff (tick : Duration) : w.now < roundUp tick ↔ w'.now < roundUp tick := by rw [alike.now]

theorem awaitTick (p : Nat) (tick : Duration) : (w.awaitTick p tick).Alike L S (w'.awaitTick p tick) :=
  choice (alike.early_iff tick) ((alike.setProbe p _).plan rfl rfl) (alike.setProbe p _)

theorem runProbe (p : Nat) : (w.runProbe p).Alike L S (w'.runProbe p) := by
  have now : w.nowTime = w'.nowTime := congrArg Duration.ofMillis alike.now
  unfold Timeline.runProbe
  rw [alike.probes]
  split
  · exact alike
  · split
    · split
      · exact alike.endProbe p
      · rw [now]
        exact alike.awaitTick p _
    · rename_i x _ tick _
      split
      · exact alike.endProbe p
      · rw [alike.gone, now]
        exact choice (alike.early_iff tick) alike
          (choice Iff.rfl (alike.endProbe p) ((alike.setProbe p _).begin .probeOnce (.probe p)))
    · exact alike
    · exact alike

theorem probed (p replaced : Nat) : (w.probed p replaced).Alike L S (w'.probed p replaced) := by
  have told := choice (Iff.refl (0 < replaced))
    (alike.logPlain (e := Notice.probeReplaced replaced) (by simp [Notice.probeReplaced])) alike
  unfold Timeline.probed
  generalize (if 0 < replaced then w.log _ else w) = v, (if 0 < replaced then w'.log _ else w') = v' at told ⊢
  dsimp only
  rw [told.probes]
  split
  · exact (told.awaitTick p _).soon _
  · exact told

/-! ### Turns -/

theorem notify {a a' : CallAnswer α} (answer : a.Alike L a') : (w.notify i a).Alike L S (w'.notify i a') := by
  have owned := alike.owner? i
  unfold Timeline.notify
  generalize w.owners[i]? = o, w'.owners[i]? = o' at owned ⊢
  cases owned with
  | none => exact alike.noteEnd i
  | some owner =>
    cases owner with
    | caller => exact alike.noteEnd i
    | probe p =>
      cases answer with
      | lent => exact alike.noteEnd i
      | same a =>
        cases a with
        | replaced n => exact alike.probed p n
        | _ => exact alike.noteEnd i
    | operation j conduct =>
      cases answer with
      | lent => exact alike.proceed j conduct
      | same a unlent =>
        cases a with
        | leased outcome =>
          cases outcome with
          | ok l => exact absurd rfl (unlent l)
          | error e => exact alike.give j _
        | _ => exact alike.proceed j conduct

theorem runTask (clients : client.Alike L S client') : (w.runTask client i).Alike L S (w'.runTask client' i) := by
  have stepped := alike.cache.step i
  unfold Timeline.runTask
  generalize w.cache.step i = c, w'.cache.step i = c' at stepped ⊢
  cases stepped with
  | some caches => exact (alike.change i caches).soon _
  | none =>
    have there := alike.phase? i
    dsimp only
    generalize w.phase? i = p, w'.phase? i = p' at there ⊢
    cases there with
    | none => exact alike
    | @some p p' phase =>
      have answered := phase.answer?
      have asked := phase.request?
      dsimp only
      generalize p.answer? = a, p'.answer? = a', p.request? = r, p'.request? = r' at answered asked ⊢
      cases answered with
      | some answer => exact alike.notify i answer
      | none =>
        cases asked with
        | some request => exact alike.send i clients request
        | none => exact alike

theorem happen (d : Due α) : (w.happen d).Alike L S (w'.happen d) := by
  cases d with
  | start i => exact alike.later _
  | reply i r =>
    simp only [Timeline.happen, alike.childrenOf_eq]
    generalize w'.childrenOf i = children
    induction children generalizing w w' with
    | nil => exact alike.conclude i r
    | cons j children ih => exact ih (alike.dropTask j)
  | tick p => exact alike.later _
  | alarm n => exact { alike with rung := congrArg (· ++ [n]) alike.rung }

theorem turn (clients : client.Alike L S client') :
    Option.Rel (Timeline.Alike L S) (w.turn client) (w'.turn client') := by
  have readied (rest : List Runner) : Timeline.Alike L S { w with ready := rest } { w' with ready := rest } :=
    { alike with ready := rfl }
  have passed (time : Nat) (rest : List (Nat × Due α)) :
      Timeline.Alike L S { w with now := time, ready := w'.ready, agenda := rest }
        { w' with now := time, agenda := rest } :=
    { alike with now := rfl, ready := rfl, agenda := rfl }
  unfold Timeline.turn
  rw [alike.ready]
  split
  · exact .some ((readied _).runTask _ clients)
  · exact .some ((readied _).runProbe _)
  · rw [alike.agenda]
    split
    · exact .none
    · exact .some ((passed _ _).happen _)

/-- As many turns, one after the other. -/
theorem run (clients : client.Alike L S client') {until_ until' : Timeline κ α σ → Bool}
    (same : ∀ {v v' : Timeline κ α σ}, v.Alike L S v' → until_ v = until' v') :
    (w.run client until_).Alike L S (w'.run client' until') := by
  unfold Timeline.run
  generalize patience = fuel
  induction fuel generalizing w w' with
  | zero => exact alike
  | succ fuel ih =>
    simp only [turns, same alike]
    split
    · exact alike
    · have turned := alike.turn clients
      generalize w.turn client = v, w'.turn client' = v' at turned ⊢
      cases turned with
      | none => exact alike
      | some alike => exact ih alike

/-! ### What a caller does -/

theorem isEnded_eq : w.isEnded i = w'.isEnded i := by rw [Timeline.isEnded, Timeline.isEnded, alike.ended]

theorem call (clients : client.Alike L S client') {c c' : Call κ} (calls : c.Alike L c') :
    (w.call client c).1.Alike L S (w'.call client' c').1 ∧
      Option.Rel (CallAnswer.Alike L) (w.call client c).2 (w'.call client' c').2 := by
  have called := (alike.begin calls .caller).run clients (fun later => later.isEnded_eq w.cache.tasks.length)
  simp only [Timeline.call, ← alike.tasks_length_eq]
  exact ⟨called, called.cache.answer? _⟩

theorem setAlarm (delay : Nat) : (w.setAlarm delay).Alike L S (w'.setAlarm delay) := by
  have counted : Timeline.Alike L S { w with alarms := w.alarms + 1 } { w' with alarms := w'.alarms + 1 } :=
    { alike with alarms := congrArg (· + 1) alike.alarms }
  exact choice Iff.rfl { counted with rung := by rw [alike.rung, alike.alarms] }
    (counted.plan (congrArg (· + delay) alike.now) (congrArg Due.alarm alike.alarms))

theorem sleep (clients : client.Alike L S client') (delay : Nat) :
    (w.sleep client delay).Alike L S (w'.sleep client' delay) := by
  unfold Timeline.sleep
  refine (alike.setAlarm delay).run clients fun later => ?_
  rw [Timeline.hasRung, Timeline.hasRung, later.rung, alike.alarms]

theorem spawn (p : Probe) : (w.spawn p).Alike L S (w'.spawn p) := by
  have more : Timeline.Alike L S { w with probes := w.probes ++ [p] } { w' with probes := w'.probes ++ [p] } :=
    { alike with probes := congrArg (· ++ [p]) alike.probes }
  have place : w.probes.length = w'.probes.length := congrArg List.length alike.probes
  simp only [Timeline.spawn, place]
  exact more.later _

theorem dropProbe (p : Nat) : (w.dropProbe p).Alike L S (w'.dropProbe p) := by
  have told : Timeline.Alike L S { w with probes := w.probes.modify p fun x => { x with stopped := true } }
      { w' with probes := w'.probes.modify p fun x => { x with stopped := true } } :=
    { alike with probes := congrArg (List.modify · p _) alike.probes }
  exact told.later _

theorem joinProbe (clients : client.Alike L S client') (p : Nat) :
    (w.joinProbe client p).Alike L S (w'.joinProbe client' p) :=
  alike.run clients fun later => by rw [later.probes]

theorem stopProbe (clients : client.Alike L S client') (p : Nat) :
    (w.stopProbe client p).Alike L S (w'.stopProbe client' p) := by
  have ended := (alike.dropProbe p).joinProbe clients p
  exact choice (by rw [ended.probes]) (ended.logPlain LogEvent.plain_nil) ended

theorem giveUp (clients : client.Alike L S client') (probes : List Nat) :
    (w.giveUp client probes).Alike L S (w'.giveUp client' probes) := by
  have left : Timeline.Alike L S { w with gone := true } { w' with gone := true } := { alike with gone := rfl }
  unfold Timeline.giveUp
  generalize { w with gone := true } = v, { w' with gone := true } = v' at left ⊢
  induction probes generalizing v v' with
  | nil => exact left
  | cons p probes ih => exact ih _ _ (left.joinProbe clients p)

end Timeline.Alike

/-! ### Runs -/

/-- What a caller does with a cache. -/
inductive Timeline.Act (κ : Type) where
  | call (c : Call κ)
  | beginAfter (delay : Nat) (c : Call κ)
  | sleep (delay : Nat)
  | spawn (p : Probe)
  | dropProbe (p : Nat)
  | stopProbe (p : Nat)
  | giveUp (probes : List Nat)

namespace Timeline

/-- The answer is that of the call, if one was made and waited for. -/
def act (w : Timeline κ α σ) (client : Client κ α σ) : Act κ → Timeline κ α σ × Option (CallAnswer α)
  | .call c => w.call client c
  | .beginAfter delay c => (w.beginAfter delay c, none)
  | .sleep delay => (w.sleep client delay, none)
  | .spawn p => (w.spawn p, none)
  | .dropProbe p => (w.dropProbe p, none)
  | .stopProbe p => (w.stopProbe client p, none)
  | .giveUp probes => (w.giveUp client probes, none)

variable (L) in
inductive Act.Alike : Act κ → Act κ → Prop
  | call {c c' : Call κ} (calls : c.Alike L c') : Alike (.call c) (.call c')
  | beginAfter (delay : Nat) {c c' : Call κ} (calls : c.Alike L c') : Alike (.beginAfter delay c) (.beginAfter delay c')
  | sleep (delay : Nat) : Alike (.sleep delay) (.sleep delay)
  | spawn (p : Probe) : Alike (.spawn p) (.spawn p)
  | dropProbe (p : Nat) : Alike (.dropProbe p) (.dropProbe p)
  | stopProbe (p : Nat) : Alike (.stopProbe p) (.stopProbe p)
  | giveUp (probes : List Nat) : Alike (.giveUp probes) (.giveUp probes)

theorem Alike.act {w w' : Timeline κ α σ} {client client' : Client κ α σ} {a a' : Act κ} (alike : w.Alike L S w')
    (clients : client.Alike L S client') (acts : a.Alike L a') :
    (w.act client a).1.Alike L S (w'.act client' a').1 ∧
      Option.Rel (CallAnswer.Alike L) (w.act client a).2 (w'.act client' a').2 := by
  cases acts with
  | call calls => exact alike.call clients calls
  | beginAfter delay calls => exact ⟨alike.beginAfter delay calls, .none⟩
  | sleep delay => exact ⟨alike.sleep clients delay, .none⟩
  | spawn p => exact ⟨alike.spawn p, .none⟩
  | dropProbe p => exact ⟨alike.dropProbe p, .none⟩
  | stopProbe p => exact ⟨alike.stopProbe clients p, .none⟩
  | giveUp probes => exact ⟨alike.giveUp clients probes, .none⟩

end Timeline

end StoreAccess
