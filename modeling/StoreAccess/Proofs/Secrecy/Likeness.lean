import StoreAccess.Proofs.Cache.Moves

/-! Two runs side by side, in which configurations stand for each other that a cache treats alike: they have the
    same kind, pool and check, and their fingerprints are the same in the one run exactly if they are in the other.
    Whatever holds configurations or fingerprints is alike if it has corresponding ones at the same places and is
    the same otherwise. Errors, values, counts and times are never different. -/

namespace StoreAccess

/-- Which configurations stand for each other in two runs, and which fingerprints. -/
structure Likeness (κ : Type) [BackendConfig κ] where
  Config : κ → κ → Prop
  Print : Fingerprint → Fingerprint → Prop
  kind {a b : κ} (alike : Config a b) : BackendConfig.kind a = BackendConfig.kind b
  pool {a b : κ} (alike : Config a b) : BackendConfig.pool a = BackendConfig.pool b
  check {a b : κ} (alike : Config a b) : BackendConfig.check a = BackendConfig.check b
  fingerprint {a b : κ} (alike : Config a b) : Print (BackendConfig.fingerprint a) (BackendConfig.fingerprint b)
  one_to_one {f f' g g' : Fingerprint} (first : Print f f') (second : Print g g') : f = g ↔ f' = g'

variable {κ α : Type} [BackendConfig κ] {L : Likeness κ}

theorem Likeness.beq_eq {f f' g g' : Fingerprint} (first : L.Print f f') (second : L.Print g g') :
    (f == g) = (f' == g') := by
  rw [Bool.eq_iff_iff, beq_iff_eq, beq_iff_eq]
  exact L.one_to_one first second

variable (L)

/-! ### What a cache holds -/

def Target.Alike (t t' : Target κ) : Prop := L.Config t.config t'.config

structure Lease.Alike (l l' : Lease) : Prop where
  handle : l.handle = l'.handle
  print : L.Print l.fingerprint l'.fingerprint
  generation : l.generation = l'.generation

structure Entry.Alike (e e' : Entry κ) : Prop where
  target : e.target.Alike L e'.target
  handle : e.handle = e'.handle
  generation : e.generation = e'.generation

variable {L}

namespace Target.Alike

variable {t t' : Target κ} (alike : t.Alike L t')
include alike

theorem print : L.Print t.fingerprint t'.fingerprint := by
  rw [t.fingerprint_eq, t'.fingerprint_eq]
  exact L.fingerprint alike

theorem kind : t.kind = t'.kind := L.kind alike

theorem pool : t.pool = t'.pool := L.pool alike

theorem check : t.check = t'.check := by
  rw [Target.check, Target.check, L.check alike, alike.pool]

end Target.Alike

namespace Entry.Alike

variable {e e' : Entry κ} (alike : e.Alike L e')
include alike

theorem print : L.Print e.target.fingerprint e'.target.fingerprint := alike.target.print

theorem lease : e.lease.Alike L e'.lease := ⟨alike.handle, alike.print, alike.generation⟩

end Entry.Alike

variable (L)

/-! ### Calls and what they wait for -/

inductive Call.Alike : Call κ → Call κ → Prop
  | acquire {c c' : κ} (config : L.Config c c') : Alike (.acquire c) (.acquire c')
  | invalidate {f f' : Fingerprint} (print : L.Print f f') : Alike (.invalidate f) (.invalidate f')
  | invalidateLease {l l' : Lease} (lease : l.Alike L l') : Alike (.invalidateLease l) (.invalidateLease l')
  | withConnection {c c' : κ} (config : L.Config c c') : Alike (.withConnection c) (.withConnection c')
  | probeOnce : Alike .probeOnce .probeOnce
  | clear : Alike .clear .clear
  | length : Alike .length .length
  | contains {f f' : Fingerprint} (print : L.Print f f') : Alike (.contains f) (.contains f')

/-- The same answer, if it does not lend a handle. -/
inductive CallAnswer.Alike : CallAnswer α → CallAnswer α → Prop
  | lent {l l' : Lease} (lease : l.Alike L l') : Alike (.leased (.ok l)) (.leased (.ok l'))
  | same (a : CallAnswer α) (unlent : ∀ l, a ≠ .leased (.ok l)) : Alike a a

inductive Request.Alike : Request κ → Request κ → Prop
  | dial {c c' : κ} (config : L.Config c c') (pool : PoolSettings) : Alike (.dial c pool) (.dial c' pool)
  | close {l l' : Lease} (lease : l.Alike L l') : Alike (.close l) (.close l')
  | ping {l l' : Lease} (lease : l.Alike L l') : Alike (.ping l) (.ping l')
  | operate {l l' : Lease} (lease : l.Alike L l') : Alike (.operate l) (.operate l')

inductive Purpose.Alike : Purpose κ → Purpose κ → Prop
  | caller : Alike .caller .caller
  | attempt (again : Bool) : Alike (.attempt again) (.attempt again)
  | replace {rest rest' : List (Entry κ)} (entries : List.Forall₂ (Entry.Alike L) rest rest') (replaced : Nat) :
      Alike (.replace rest replaced) (.replace rest' replaced)

inductive Aftermath.Alike : Aftermath κ → Aftermath κ → Prop
  | caller : Alike .caller .caller
  | attempt {t t' : Target κ} (target : t.Alike L t') (again : Bool) (e : Error) :
      Alike (.attempt t again e) (.attempt t' again e)
  | probe {t t' : Target κ} {rest rest' : List (Entry κ)} (target : t.Alike L t')
      (entries : List.Forall₂ (Entry.Alike L) rest rest') (replaced : Nat) :
      Alike (.probe t rest replaced) (.probe t' rest' replaced)
  | clear {rest rest' : List (Entry κ)} (entries : List.Forall₂ (Entry.Alike L) rest rest') :
      Alike (.clear rest) (.clear rest')

inductive Phase.Alike : Phase κ α → Phase κ α → Prop
  | looking {t t' : Target κ} {why why' : Purpose κ} (target : t.Alike L t') (purpose : why.Alike L why') :
      Alike (.looking t why) (.looking t' why')
  | queueing {t t' : Target κ} {why why' : Purpose κ} (target : t.Alike L t') (purpose : why.Alike L why') :
      Alike (.queueing t why) (.queueing t' why')
  | rechecking {t t' : Target κ} {why why' : Purpose κ} (target : t.Alike L t') (purpose : why.Alike L why') :
      Alike (.rechecking t why) (.rechecking t' why')
  | dialing {t t' : Target κ} {why why' : Purpose κ} (target : t.Alike L t') (purpose : why.Alike L why') :
      Alike (.dialing t why) (.dialing t' why')
  | inserting {e e' : Entry κ} {why why' : Purpose κ} (entry : e.Alike L e') (purpose : why.Alike L why') :
      Alike (.inserting e why) (.inserting e' why')
  | operating {t t' : Target κ} {l l' : Lease} (target : t.Alike L t') (again : Bool) (lease : l.Alike L l') :
      Alike (.operating t again l) (.operating t' again l')
  | removing {f f' : Fingerprint} (print : L.Print f f') : Alike (.removing f) (.removing f')
  | removingLease {l l' : Lease} {why why' : Aftermath κ} (lease : l.Alike L l') (aftermath : why.Alike L why') :
      Alike (.removingLease l why) (.removingLease l' why')
  | draining : Alike .draining .draining
  | closing {e e' : Entry κ} {why why' : Aftermath κ} (entry : e.Alike L e') (aftermath : why.Alike L why') :
      Alike (.closing e why) (.closing e' why')
  | noting : Alike .noting .noting
  | pinging {e e' : Entry κ} {rest rest' : List (Entry κ)} (entry : e.Alike L e')
      (entries : List.Forall₂ (Entry.Alike L) rest rest') (replaced : Nat) :
      Alike (.pinging e rest replaced) (.pinging e' rest' replaced)
  | counting : Alike .counting .counting
  | containing {f f' : Fingerprint} (print : L.Print f f') : Alike (.containing f) (.containing f')
  | finished {a a' : CallAnswer α} (answer : a.Alike L a') : Alike (.finished a) (.finished a')
  | dropped : Alike .dropped .dropped

/-- Tasks alike hold the same lock. -/
structure Task.Alike (t t' : Task κ α) : Prop where
  phase : t.phase.Alike L t'.phase
  lock : t.lock = t'.lock

/-- Calls begin alike, steps are the same task's, and the client replies the same. -/
inductive Move.Alike : Move κ α → Move κ α → Prop
  | start {call call' : Call κ} (calls : call.Alike L call') : Alike (.start call) (.start call')
  | step (i : Nat) : Alike (.step i) (.step i)
  | reply (i : Nat) (r : Reply α) : Alike (.reply i r) (.reply i r)
  | drop (i : Nat) : Alike (.drop i) (.drop i)

variable {L}

/-! ### What is read off a phase -/

theorem Request.Alike.limit?_eq {r r' : Request κ} (alike : r.Alike L r') (options : CacheOptions) :
    r.limit? options = r'.limit? options := by
  cases alike <;> rfl

theorem Phase.alike_ofCall {c c' : Call κ} (alike : c.Alike L c') :
    (ofCall c : Phase κ α).Alike L (ofCall c') := by
  cases alike with
  | acquire config => exact .looking config .caller
  | invalidate print => exact .removing print
  | invalidateLease lease => exact .removingLease lease .caller
  | withConnection config => exact .looking config (.attempt false)
  | probeOnce => exact .noting
  | clear => exact .draining
  | length => exact .counting
  | contains print => exact .containing print

namespace Phase.Alike

variable {p p' : Phase κ α} (alike : p.Alike L p')
include alike

theorem lock?_eq : p.lock? = p'.lock? := by cases alike <;> rfl

theorem isOver_eq : p.isOver = p'.isOver := by cases alike <;> rfl

theorem gate? : Option.Rel L.Print p.gate? p'.gate? := by
  cases alike with
  | rechecking target | dialing target => exact .some target.print
  | inserting entry => exact .some entry.print
  | _ => exact .none

theorem request? : Option.Rel (Request.Alike L) p.request? p'.request? := by
  cases alike with
  | dialing target =>
    simp only [Phase.request?, target.pool]
    exact .some (.dial target _)
  | operating _ _ lease => exact .some (.operate lease)
  | closing entry => exact .some (.close entry.lease)
  | pinging entry => exact .some (.ping entry.lease)
  | _ => exact .none

theorem answer? : Option.Rel (CallAnswer.Alike L) p.answer? p'.answer? := by
  cases alike with
  | finished answer => exact .some answer
  | _ => exact .none

end Phase.Alike

/-! ### Log events -/

/-- No field is one for fingerprints. -/
def LogEvent.Plain (fields : List (String × String)) : Prop := ∀ p ∈ fields, p.1 ≠ "fingerprint"

/-- Short texts of fingerprints that stand for each other, in the field for fingerprints, and the same text in any
    other. -/
inductive Likeness.Field (L : Likeness κ) : String × String → String × String → Prop
  | same {p : String × String} (plain : p.1 ≠ "fingerprint") : Field L p p
  | print {f f' : Fingerprint} (print : L.Print f f') : Field L (Notice.shortOf f) (Notice.shortOf f')

variable (L)

structure LogEvent.Alike (e e' : LogEvent) : Prop where
  level : e.level = e'.level
  message : e.message = e'.message
  fields : List.Forall₂ L.Field e.fields e'.fields

inductive CacheEvent.Alike : CacheEvent κ → CacheEvent κ → Prop
  | request (i : Nat) {r r' : Request κ} (request : r.Alike L r') : Alike (.request i r) (.request i r')
  | log {e e' : LogEvent} (event : e.Alike L e') : Alike (.log e) (.log e')

variable {L}

namespace LogEvent

@[simp] theorem plain_nil : Plain [] := nofun

@[simp] theorem plain_cons {p : String × String} {fields : List (String × String)} :
    Plain (p :: fields) ↔ p.1 ≠ "fingerprint" ∧ Plain fields :=
  List.forall_mem_cons

@[simp] theorem backendOf_ne_fingerprint (kind : BackendKind) : (Notice.backendOf kind).1 ≠ "fingerprint" := by
  simp [Notice.backendOf]

@[simp] theorem errorOf_ne_fingerprint (e : Error) : (Notice.errorOf e).1 ≠ "fingerprint" := by
  simp [Notice.errorOf]

theorem Plain.alike {fields : List (String × String)} (plain : Plain fields) : List.Forall₂ L.Field fields fields :=
  List.forall₂_same.mpr fun p there => .same (plain p there)

theorem alike_of_plain {e : LogEvent} (plain : Plain e.fields) : e.Alike L e := ⟨rfl, rfl, plain.alike⟩

theorem alike_all {events : List LogEvent} (plain : ∀ e ∈ events, Plain e.fields) :
    List.Forall₂ (LogEvent.Alike L) events events :=
  List.forall₂_same.mpr fun e there => alike_of_plain (plain e there)

/-- Events that differ in nothing but the fingerprint that one of their fields shows. -/
theorem alike_of_print {f f' : Fingerprint} (print : L.Print f f') (level : LogLevel) (message : String)
    (before after : List (String × String)) (plain : Plain before) (plain' : Plain after) :
    LogEvent.Alike L ⟨level, message, before ++ Notice.shortOf f :: after⟩
      ⟨level, message, before ++ Notice.shortOf f' :: after⟩ :=
  ⟨rfl, rfl, List.rel_append plain.alike (.cons (.print print) plain'.alike)⟩

theorem alike_of_lease {l l' : Lease} (lease : l.Alike L l') (level : LogLevel) (message : String)
    (before : List (String × String)) (plain : Plain before) :
    LogEvent.Alike L
      ⟨level, message, before ++ [Notice.shortOf l.fingerprint, ("generation", Notice.number l.generation)]⟩
      ⟨level, message, before ++ [Notice.shortOf l'.fingerprint, ("generation", Notice.number l'.generation)]⟩ := by
  rw [lease.generation]
  exact alike_of_print lease.print level message before _ plain (by simp)

end LogEvent

end StoreAccess
