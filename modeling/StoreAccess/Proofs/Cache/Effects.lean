import StoreAccess.Proofs.Cache.Moves

/-! What the moves of a cache do to what tasks share. Of the many kinds of moves, few touch the entries or
    the gates; the others are one case here (`Effect.pass`). -/

namespace StoreAccess

/-! ### What a task has in hand -/

/-- The removed entries that are closed later. -/
def Aftermath.waiting {κ : Type} [BackendConfig κ] : Aftermath κ → List Lease
  | .clear rest => rest.map Entry.lease
  | _ => []

namespace Phase

variable {κ α : Type} [BackendConfig κ]

/-- The target for which the task is about to put an entry in. -/
def fills? : Phase κ α → Option Fingerprint
  | dialing target _ => some target.fingerprint
  | inserting e _ => some e.target.fingerprint
  | _ => none

/-- The handle that the task has dialed and not put in yet. -/
def held : Phase κ α → List Lease
  | inserting e _ => [e.lease]
  | _ => []

/-- The handle that is being closed. -/
def closingNow : Phase κ α → List Lease
  | closing e _ => [e.lease]
  | _ => []

/-- The handles that the task has removed and is going to close. -/
def waiting : Phase κ α → List Lease
  | closing _ why | removingLease _ why => why.waiting
  | _ => []

/-- The handles that the task has removed and is closing or going to close. -/
def owed (p : Phase κ α) : List Lease := p.closingNow ++ p.waiting

def isDropped : Phase κ α → Bool
  | dropped => true
  | _ => false

/-- A phase away from the gates, with nothing in hand. -/
structure Free (p : Phase κ α) : Prop where
  alive : p.isDropped = false
  gate : p.gate? = none
  fills : p.fills? = none
  held : p.held = []
  owed : p.owed = []

theorem free_ofCall (call : Call κ) : (ofCall call : Phase κ α).Free := by
  cases call <;> exact ⟨rfl, rfl, rfl, rfl, rfl⟩

theorem free_toPing (rest : List (Entry κ)) (replaced : Nat) : (toPing rest replaced : Phase κ α).Free := by
  cases rest <;> exact ⟨rfl, rfl, rfl, rfl, rfl⟩

theorem free_afterFailure (target : Target κ) (again : Bool) (e : Error) :
    (afterFailure target again e : Phase κ α).Free := by
  unfold afterFailure
  split <;> exact ⟨rfl, rfl, rfl, rfl, rfl⟩

theorem free_afterLease (target : Target κ) (why : Purpose κ) (l : Lease) :
    (afterLease target why l : Phase κ α).Free := by
  cases why with
  | caller | attempt => exact ⟨rfl, rfl, rfl, rfl, rfl⟩
  | replace rest replaced => exact free_toPing rest _

theorem free_afterRefusal (target : Target κ) (why : Purpose κ) (e : Error) :
    (afterRefusal target why e : Phase κ α).Free := by
  cases why with
  | caller => exact ⟨rfl, rfl, rfl, rfl, rfl⟩
  | attempt again => exact free_afterFailure target again e
  | replace rest replaced => exact free_toPing rest _

theorem free_afterOperation (target : Target κ) (again : Bool) (l : Lease) (e : Error) :
    (afterOperation target again l e : Phase κ α).Free := by
  unfold afterOperation
  split <;> exact ⟨rfl, rfl, rfl, rfl, rfl⟩

/-- A phase away from the gates, in which some removed handles are still to be closed. -/
structure Owes (p : Phase κ α) (handles : List Lease) : Prop where
  alive : p.isDropped = false
  gate : p.gate? = none
  fills : p.fills? = none
  held : p.held = []
  owed : p.owed = handles

theorem Free.owes {p : Phase κ α} (h : p.Free) : p.Owes [] := ⟨h.alive, h.gate, h.fills, h.held, h.owed⟩

theorem owes_toClose (rest : List (Entry κ)) : (toClose rest : Phase κ α).Owes (rest.map Entry.lease) := by
  cases rest <;> exact ⟨rfl, rfl, rfl, rfl, rfl⟩

theorem owes_afterRemoval (why : Aftermath κ) (found : Bool) :
    (afterRemoval why found : Phase κ α).Owes why.waiting := by
  cases why with
  | caller => exact ⟨rfl, rfl, rfl, rfl, rfl⟩
  | attempt target again e => exact (free_afterFailure target again e).owes
  | probe target rest replaced =>
    cases found
    · exact (free_toPing rest replaced).owes
    · exact ⟨rfl, rfl, rfl, rfl, rfl⟩
  | clear rest => exact owes_toClose rest

end Phase

/-- The task that goes on by a move. -/
def Move.worker? {κ α : Type} : Move κ α → Option Nat
  | .step i | .reply i _ => some i
  | .start _ | .drop _ => none

namespace Cache

variable {κ α : Type} [BackendConfig κ]

/-- What a move does to the entries and the gates. -/
inductive Effect (c : Cache κ α) : Move κ α → Cache κ α → Prop
  | start {call : Call κ} : Effect c (.start call) (c.start call)
  | lock {i : Nat} {p : Phase κ α} {l : Lock} (task : c.tasks[i]? = some ⟨p, none⟩)
      (passed : c.passed i p = true) :
      Effect c (.step i) { c with tasks := c.tasks.set i ⟨p, some l⟩ }
  /-- The task goes on, and nothing that is shared changes. -/
  | pass {m : Move κ α} {i : Nat} {p q : Phase κ α} {l : Option Lock} {handles : List Lease} {d : Cache κ α}
      (task : c.tasks[i]? = some ⟨p, l⟩) (worker : m.worker? = some i) (enters : c.Enters i q d)
      (here : p.Owes handles) (idle : p.closingNow = []) (there : q.Owes handles) : Effect c m d
  | queue {i : Nat} {target : Target κ} {why : Purpose κ} {l : Option Lock} {d : Cache κ α}
      (task : c.tasks[i]? = some ⟨.queueing target why, l⟩)
      (enters : (c.join target.fingerprint i).Enters i (.rechecking target why) d) : Effect c (.step i) d
  | dial {i : Nat} {target : Target κ} {why : Purpose κ} {l : Lock} {d : Cache κ α}
      (task : c.tasks[i]? = some ⟨.rechecking target why, some l⟩)
      (entry : c.entry? target.fingerprint = none) (check : target.check = .ok ())
      (enters : c.Enters i (.dialing target why) d) : Effect c (.step i) d
  | dialed {i : Nat} {target : Target κ} {why : Purpose κ} {l : Option Lock} {d : Cache κ α}
      (task : c.tasks[i]? = some ⟨.dialing target why, l⟩)
      (enters : c.handleMade.Enters i (.inserting (c.newEntry target) why) d) :
      Effect c (.reply i .success) d
  /-- The task leaves its gate without an entry of its own. -/
  | leave {m : Move κ α} {i : Nat} {p q : Phase κ α} {l : Option Lock} {d : Cache κ α}
      (task : c.tasks[i]? = some ⟨p, l⟩) (worker : m.worker? = some i) (enters : (c.leave i).Enters i q d)
      (held : p.held = []) (owed : p.owed = []) (there : q.Free) : Effect c m d
  | insert {i : Nat} {e : Entry κ} {why : Purpose κ} {l : Option Lock} {q : Phase κ α} {d : Cache κ α}
      (task : c.tasks[i]? = some ⟨.inserting e why, l⟩) (there : q.Free)
      (enters : ((c.put e).leave i).Enters i q d) : Effect c (.step i) d
  | remove {i : Nat} {p : Phase κ α} {f : Fingerprint} {why : Aftermath κ} {l : Option Lock} {e : Entry κ}
      {d : Cache κ α} (task : c.tasks[i]? = some ⟨p, l⟩) (here : p.Owes why.waiting)
      (idle : p.closingNow = []) (entry : c.entry? f = some e)
      (enters : (c.erase f).Enters i (.closing e why) d) : Effect c (.step i) d
  | drain {i : Nat} {l : Option Lock} {es : List (Entry κ)} {d : Cache κ α}
      (task : c.tasks[i]? = some ⟨.draining, l⟩) (all : es.Perm c.entries)
      (enters : { c with entries := [] }.Enters i (.toClose es) d) : Effect c (.step i) d
  | closed {i : Nat} {e : Entry κ} {why : Aftermath κ} {l : Option Lock} {r : Reply α} {d : Cache κ α}
      (task : c.tasks[i]? = some ⟨.closing e why, l⟩)
      (enters : c.Enters i (.afterRemoval why true) d) : Effect c (.reply i r) d
  | drop {i : Nat} {p : Phase κ α} {l : Option Lock} {d : Cache κ α} (task : c.tasks[i]? = some ⟨p, l⟩)
      (enters : (c.leave i).Enters i .dropped d) : Effect c (.drop i) d

theorem Does.effect {c d : Cache κ α} {m : Move κ α} (h : c.Does m d) : c.Effect m d := by
  cases h with
  | start => exact .start
  | lock task _ passed _ => exact .lock task passed
  | @hit i target why l e _ task _ enters =>
    exact .pass task rfl enters ⟨rfl, rfl, rfl, rfl, rfl⟩ rfl (Phase.free_afterLease target why _).owes
  | miss task _ enters => exact .pass task rfl enters ⟨rfl, rfl, rfl, rfl, rfl⟩ rfl ⟨rfl, rfl, rfl, rfl, rfl⟩
  | queue task enters => exact .queue task enters
  | @share i target why l e _ task _ enters =>
    exact .leave task rfl enters rfl rfl (Phase.free_afterLease target why _)
  | @reject i target why l err _ task _ _ enters =>
    exact .leave task rfl enters rfl rfl (Phase.free_afterRefusal target why err)
  | dial task entry check enters => exact .dial task entry check enters
  | @insert i e why l _ task enters => exact .insert task (Phase.free_afterLease e.target why _) enters
  | remove task entry enters => exact .remove task ⟨rfl, rfl, rfl, rfl, rfl⟩ rfl entry enters
  | removeNone task _ enters =>
    exact .pass task rfl enters ⟨rfl, rfl, rfl, rfl, rfl⟩ rfl ⟨rfl, rfl, rfl, rfl, rfl⟩
  | evict task entry _ enters => exact .remove task ⟨rfl, rfl, rfl, rfl, rfl⟩ rfl entry enters
  | @evictNone i lease why l _ task _ enters =>
    exact .pass task rfl enters ⟨rfl, rfl, rfl, rfl, rfl⟩ rfl (Phase.owes_afterRemoval why false)
  | drain task all enters => exact .drain task all enters
  | note task _ enters =>
    exact .pass task rfl enters ⟨rfl, rfl, rfl, rfl, rfl⟩ rfl (Phase.free_toPing _ _).owes
  | count task enters | contain task enters =>
    exact .pass task rfl enters ⟨rfl, rfl, rfl, rfl, rfl⟩ rfl ⟨rfl, rfl, rfl, rfl, rfl⟩
  | dialed task enters => exact .dialed task enters
  | @undialed i target why l r err _ task _ enters =>
    exact .leave task rfl enters rfl rfl (Phase.free_afterRefusal target why _)
  | operated task enters => exact .pass task rfl enters ⟨rfl, rfl, rfl, rfl, rfl⟩ rfl ⟨rfl, rfl, rfl, rfl, rfl⟩
  | @failed i target again lease l r err _ task _ enters =>
    exact .pass task rfl enters ⟨rfl, rfl, rfl, rfl, rfl⟩ rfl
      (Phase.free_afterOperation target again lease err).owes
  | pinged task enters =>
    exact .pass task rfl enters ⟨rfl, rfl, rfl, rfl, rfl⟩ rfl (Phase.free_toPing _ _).owes
  | unpinged task _ enters =>
    exact .pass task rfl enters ⟨rfl, rfl, rfl, rfl, rfl⟩ rfl ⟨rfl, rfl, rfl, rfl, rfl⟩
  | closed task _ enters => exact .closed task enters
  | drop task _ enters => exact .drop task enters

theorem effect_of_move {c d : Cache κ α} {m : Move κ α} (h : c.move m = some d) : c.Effect m d :=
  (does_of_move h).effect

/-- The options of a cache stay. -/
theorem options_of_move {c d : Cache κ α} {m : Move κ α} (move : c.move m = some d) : d.options = c.options := by
  have effect := effect_of_move move
  cases effect with
  | start | lock => rfl
  | pass _ _ enters => exact enters.options
  | leave _ _ enters => exact enters.options
  | queue _ enters => exact enters.options
  | dial _ _ _ enters => exact enters.options
  | dialed _ enters => exact enters.options
  | insert _ _ enters => exact enters.options
  | remove _ _ _ _ enters => exact enters.options
  | drain _ _ enters => exact enters.options
  | closed _ enters => exact enters.options
  | drop _ enters => exact enters.options

end Cache

end StoreAccess
