import StoreAccess.Config.Settings
import StoreAccess.Proofs.Config.Checks

/-! Settings pass iff the options of the caches and every configuration pass. Otherwise the error is that of the
    options, or of the first configuration that fails, by the order of the sections and by name within a section,
    and says where that configuration stands. -/

namespace StoreAccess
namespace Settings

inductive Section where
  | relational
  | keyValue
  | document
  | coordination
  | wideColumn
  deriving DecidableEq, Repr

namespace Section

/-- All sections, in the order of their checks. -/
def all : List Section := [relational, keyValue, document, coordination, wideColumn]

def name : Section → String
  | relational => "relational"
  | keyValue => "key_value"
  | document => "document"
  | coordination => "coordination"
  | wideColumn => "wide_column"

def rank (part : Section) : Nat := all.idxOf part

end Section

/-- Where a configuration stands: in which section, and under which name. -/
structure Place where
  part : Section
  name : String
  deriving DecidableEq, Repr

namespace Place

def text (p : Place) : String := p.part.name ++ "." ++ p.name

/-- One place comes before another: in an earlier section, or in the same one by name. -/
def Before (p q : Place) : Prop := p.part.rank < q.part.rank ∨ p.part = q.part ∧ p.name < q.name

theorem Before.asymm {p q : Place} (first : p.Before q) : ¬ q.Before p := by
  rintro (earlier | ⟨same, name⟩)
  · rcases first with earlier' | ⟨same, -⟩
    · omega
    · rw [same] at earlier
      exact Nat.lt_irrefl _ earlier
  · rcases first with earlier' | ⟨-, name'⟩
    · rw [same] at earlier'
      exact Nat.lt_irrefl _ earlier'
    · exact String.lt_asymm name name'

end Place

def config? (s : Settings) (p : Place) : Option StoreConfig :=
  match p.part with
  | .relational => (s.relational.get? p.name).map .relational
  | .keyValue => (s.keyValue.get? p.name).map .keyValue
  | .document => (s.document.get? p.name).map .document
  | .coordination => (s.coordination.get? p.name).map .coordination
  | .wideColumn => (s.wideColumn.get? p.name).map .wideColumn

/-- What a configuration fails with is reported with its place. -/
def refusal (p : Place) (e : Error) : Error :=
  .configuration (p.text ++ ": " ++ e.message)

/-! ### The configurations in order -/

variable {s : Settings} {p : Place} {c : StoreConfig} {e : Error}

/-- The configurations of a section by name. -/
def named (s : Settings) : Section → List (String × StoreConfig)
  | .relational => s.relational.sorted.map fun p => (p.1, .relational p.2)
  | .keyValue => s.keyValue.sorted.map fun p => (p.1, .keyValue p.2)
  | .document => s.document.sorted.map fun p => (p.1, .document p.2)
  | .coordination => s.coordination.sorted.map fun p => (p.1, .coordination p.2)
  | .wideColumn => s.wideColumn.sorted.map fun p => (p.1, .wideColumn p.2)

def placed (s : Settings) : List (Place × StoreConfig) :=
  Section.all.flatMap fun part => (s.named part).map fun p => (⟨part, p.1⟩, p.2)

theorem sections_eq (s : Settings) : s.sections = Section.all.map fun part => (part.name, s.named part) := rfl

theorem mem_placed : (p, c) ∈ s.placed ↔ s.config? p = some c := by
  have inSection : (p, c) ∈ s.placed ↔ (p.name, c) ∈ s.named p.part := by
    obtain ⟨part, name⟩ := p
    simp only [placed, List.mem_flatMap, List.mem_map, Prod.mk.injEq, Place.mk.injEq, Prod.exists]
    constructor
    · rintro ⟨_, -, _, _, there, ⟨rfl, rfl⟩, rfl⟩
      exact there
    · intro there
      exact ⟨part, by cases part <;> decide, name, c, there, ⟨rfl, rfl⟩, rfl⟩
  have mapped {κ : Type} (d : Dict κ) (f : κ → StoreConfig) (name : String) :
      (name, c) ∈ (d.sorted.map fun q => (q.1, f q.2)) ↔ (d.get? name).map f = some c := by
    simp only [List.mem_map, Dict.mem_sorted, Prod.mk.injEq, Prod.exists, Option.map_eq_some_iff]
    exact ⟨fun ⟨_, x, found, same, is⟩ => ⟨x, same ▸ found, is⟩, fun ⟨x, found, is⟩ => ⟨name, x, found, rfl, is⟩⟩
  rw [inSection, config?]
  cases p.part <;> exact mapped _ _ _

theorem pairwise_placed (s : Settings) : s.placed.Pairwise fun x y => x.1.Before y.1 := by
  have within {κ : Type} (d : Dict κ) (f : κ → StoreConfig) (part : Section) :
      ((d.sorted.map fun q => (q.1, f q.2)).map fun p => ((⟨part, p.1⟩ : Place), p.2)).Pairwise
        fun x y => x.1.Before y.1 := by
    rw [List.pairwise_map, List.pairwise_map]
    exact d.pairwise_sorted.imp fun less => Or.inr ⟨rfl, less⟩
  rw [placed, List.pairwise_flatMap]
  refine ⟨fun part _ => by cases part <;> exact within _ _ _, ?_⟩
  have ranks : Section.all.Pairwise fun part part' => part.rank < part'.rank := by decide
  refine ranks.imp fun {part part'} less x inFirst y inSecond => Or.inl ?_
  obtain ⟨_, -, rfl⟩ := List.mem_map.mp inFirst
  obtain ⟨_, -, rfl⟩ := List.mem_map.mp inSecond
  exact less

/-! ### Checks -/

theorem check_eq (s : Settings) :
    s.check = s.cache.check >>= fun _ => forM s.placed fun x => (BackendConfig.check x.2).mapError (refusal x.1) := by
  rw [check, sections_eq, List.forM_eq_forM, List.forM_map, placed, ← forM_flatMap]
  refine congrArg (s.cache.check >>= fun _ => forM Section.all ·) (funext fun part => ?_)
  rw [List.forM_map]
  rfl

/-- The first configuration that fails its own check, and what it fails with. -/
structure FirstRefused (s : Settings) (p : Place) (c : StoreConfig) (e : Error) : Prop where
  there : s.config? p = some c
  fails : BackendConfig.check c = .error e
  first : ∀ q d, q.Before p → s.config? q = some d → BackendConfig.check d = .ok ()

theorem check_eq_ok_iff :
    s.check = .ok () ↔ s.cache.check = .ok () ∧ ∀ p c, s.config? p = some c → BackendConfig.check c = .ok () := by
  rw [check_eq, Except.bind_eq_ok_iff, forM_eq_ok_iff]
  simp only [Prod.forall, mem_placed, Except.mapError_eq_ok_iff]

theorem check_eq_error_iff : s.check = .error e ↔ s.cache.check = .error e ∨
    s.cache.check = .ok () ∧ ∃ p c e', s.FirstRefused p c e' ∧ e = refusal p e' := by
  rw [check_eq, Except.bind_eq_error_iff, forM_eq_error_iff_of_pairwise s.pairwise_placed fun _ _ => Place.Before.asymm]
  refine or_congr Iff.rfl (and_congr_right fun _ => ?_)
  simp only [Prod.exists, Prod.forall, mem_placed, Except.mapError_eq_ok_iff, Except.mapError_eq_error_iff]
  constructor
  · rintro ⟨p, c, there, ⟨e', fails, rfl⟩, first⟩
    exact ⟨p, c, e', ⟨there, fails, fun q d earlier found => first q d found earlier⟩, rfl⟩
  · rintro ⟨p, c, e', ⟨there, fails, first⟩, rfl⟩
    exact ⟨p, c, there, ⟨e', fails, rfl⟩, fun q d found earlier => first q d earlier found⟩

theorem check_of_ofText {env : Environment} {cs : List Char} (read : ofText env cs = .ok s) : s.check = .ok () := by
  rw [ofText] at read
  split at read
  · cases read
  · rename_i s' _
    change (s'.check >>= fun _ => Except.ok s') = .ok s at read
    obtain ⟨accepted, same⟩ := Except.bind_eq_ok_iff.mp read
    cases same
    exact accepted

end Settings
end StoreAccess
