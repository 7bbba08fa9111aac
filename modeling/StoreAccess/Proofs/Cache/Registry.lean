import Mathlib.Data.Finmap
import StoreAccess.Proofs.Cache.Gates

/-! What a cache is to one caller at a time: a finite map from fingerprints to generations and handles, which
    each call reads or changes in one stroke. The entries of a cache are such a map. -/

namespace StoreAccess

/-- The map, and all leases that were ever added to it. -/
structure Registry where
  map : Finmap fun _ : Fingerprint => Nat × Nat
  past : List Lease

/-- A call, known by its number, with its answer. -/
structure Operation (κ α : Type) where
  task : Nat
  call : Call κ
  answer : CallAnswer α

namespace Registry

def empty : Registry := ⟨∅, []⟩

variable {κ α : Type} [BackendConfig κ]

/-- What an operation finds in the map, what it answers and what it makes of the map; `made` says which
    handles the client has dialed for which call. -/
inductive Performs (made : Nat → Lease → Prop) (r : Registry) : Operation κ α → Registry → Prop
  | present {i : Nat} {config : κ} {l : Lease} (own : l.fingerprint = BackendConfig.fingerprint config)
      (there : r.map.lookup l.fingerprint = some (l.generation, l.handle)) :
      Performs made r ⟨i, .acquire config, .leased (.ok l)⟩ r
  | fails {i : Nat} {config : κ} {e : Error} (absent : r.map.lookup (BackendConfig.fingerprint config) = none) :
      Performs made r ⟨i, .acquire config, .leased (.error e)⟩ r
  | adds {i : Nat} {config : κ} {l : Lease} (own : l.fingerprint = BackendConfig.fingerprint config)
      (absent : r.map.lookup l.fingerprint = none) (dialed : made i l)
      (fresh : ∀ a ∈ r.past, a.handle ≠ l.handle)
      (newer : ∀ a ∈ r.past, a.fingerprint = l.fingerprint → a.generation < l.generation) :
      Performs made r ⟨i, .acquire config, .leased (.ok l)⟩
        ⟨r.map.insert l.fingerprint (l.generation, l.handle), r.past ++ [l]⟩
  | invalidate {i : Nat} {f : Fingerprint} :
      Performs made r ⟨i, .invalidate f, .removed (r.map.lookup f).isSome⟩ { r with map := r.map.erase f }
  | evict {i : Nat} {l : Lease} (same : ∃ handle, r.map.lookup l.fingerprint = some (l.generation, handle)) :
      Performs made r ⟨i, .invalidateLease l, .removed true⟩ { r with map := r.map.erase l.fingerprint }
  | spare {i : Nat} {l : Lease} (other : ∀ handle, r.map.lookup l.fingerprint ≠ some (l.generation, handle)) :
      Performs made r ⟨i, .invalidateLease l, .removed false⟩ r
  | clear {i : Nat} : Performs made r ⟨i, .clear, .cleared⟩ { r with map := ∅ }
  | length {i : Nat} : Performs made r ⟨i, .length, .counted r.map.keys.card⟩ r
  | contains {i : Nat} {f : Fingerprint} :
      Performs made r ⟨i, .contains f, .contained (r.map.lookup f).isSome⟩ r

/-- One operation after the other. -/
inductive PerformsAll (made : Nat → Lease → Prop) (r : Registry) : List (Operation κ α) → Registry → Prop
  | nil : PerformsAll made r [] r
  | snoc {s : List (Operation κ α)} {o : Operation κ α} {r₁ r₂ : Registry} (before : PerformsAll made r s r₁)
      (last : r₁.Performs made o r₂) : PerformsAll made r (s ++ [o]) r₂

variable {made made' : Nat → Lease → Prop} {r r' : Registry} {s : List (Operation κ α)} {o : Operation κ α}

theorem Performs.mono (more : ∀ i l, made i l → made' i l) (performs : r.Performs made o r') :
    r.Performs made' o r' := by
  cases performs with
  | present own there => exact .present own there
  | fails absent => exact .fails absent
  | adds own absent dialed fresh newer => exact .adds own absent (more _ _ dialed) fresh newer
  | invalidate => exact .invalidate
  | evict same => exact .evict same
  | spare other => exact .spare other
  | clear => exact .clear
  | length => exact .length
  | contains => exact .contains

theorem PerformsAll.mono (more : ∀ i l, made i l → made' i l) (performs : r.PerformsAll made s r') :
    r.PerformsAll made' s r' := by
  induction performs with
  | nil => exact .nil
  | snoc _ last ih => exact ih.snoc (last.mono more)

end Registry

/-! ### The entries of a cache as a map -/

namespace Cache

variable {κ α : Type} [BackendConfig κ] {c : Cache κ α} {f : Fingerprint}

def shelf (c : Cache κ α) : Finmap fun _ : Fingerprint => Nat × Nat :=
  (c.entries.map fun e => ⟨e.target.fingerprint, e.generation, e.handle⟩ :
    List (Sigma fun _ : Fingerprint => Nat × Nat)).toFinmap

theorem lookup_shelf (c : Cache κ α) (f : Fingerprint) :
    c.shelf.lookup f = (c.entry? f).map fun e => (e.generation, e.handle) := by
  rw [shelf, Finmap.dlookup_list_toFinmap, entry?]
  induction c.entries with
  | nil => rfl
  | cons e es ih =>
    by_cases hf : e.target.fingerprint = f
    · subst hf
      simp
    · rw [List.map_cons, List.dlookup_cons_ne _ _ (Ne.symm hf), ih, List.find?_cons_of_neg (by simpa using hf)]

theorem lookup_shelf_of_entry {e : Entry κ} (entry : c.entry? f = some e) :
    c.shelf.lookup e.lease.fingerprint = some (e.lease.generation, e.lease.handle) := by
  have same : e.lease.fingerprint = f := (entry?_eq_some entry).2
  rw [lookup_shelf, same, entry]
  rfl

theorem lookup_shelf_of_absent (absent : c.entry? f = none) : c.shelf.lookup f = none := by
  rw [lookup_shelf, absent]
  rfl

theorem entry?_erase (c : Cache κ α) (f f' : Fingerprint) :
    Cache.entry? (c.erase f) f' = if f' = f then none else c.entry? f' := by
  rw [erase, entry?, List.find?_filter]
  split
  · rename_i same
    subst same
    simp
  · rename_i other
    refine congrArg (List.find? · c.entries) (funext fun e => ?_)
    by_cases hf : e.target.fingerprint = f'
    · simp [hf, other]
    · simp [hf]

theorem entry?_put (c : Cache κ α) (e : Entry κ) (f : Fingerprint) :
    Cache.entry? (c.put e) f = if f = e.target.fingerprint then some e else c.entry? f := by
  have split : Cache.entry? (c.put e) f =
      (Cache.entry? (c.erase e.target.fingerprint) f).or ([e].find? fun e => e.target.fingerprint == f) :=
    List.find?_append
  rw [split, entry?_erase]
  by_cases same : f = e.target.fingerprint
  · simp [same]
  · simp [same, Ne.symm same]

theorem shelf_erase (c : Cache κ α) (f : Fingerprint) : (c.erase f).shelf = c.shelf.erase f := by
  refine Finmap.ext_lookup fun f' => ?_
  rw [lookup_shelf, entry?_erase]
  split
  · rename_i same
    rw [same, Finmap.lookup_erase]
    rfl
  · rename_i other
    rw [Finmap.lookup_erase_ne other, lookup_shelf]

theorem shelf_put (c : Cache κ α) (e : Entry κ) :
    (c.put e).shelf = c.shelf.insert e.target.fingerprint (e.generation, e.handle) := by
  refine Finmap.ext_lookup fun f => ?_
  rw [lookup_shelf, entry?_put]
  split
  · rename_i same
    rw [same, Finmap.lookup_insert]
    rfl
  · rename_i other
    rw [Finmap.lookup_insert_of_ne _ other, lookup_shelf]

theorem shelf_erase_of_absent (absent : c.entry? f = none) : c.shelf.erase f = c.shelf := by
  refine Finmap.ext_lookup fun f' => ?_
  by_cases same : f' = f
  · rw [same, Finmap.lookup_erase, lookup_shelf_of_absent absent]
  · rw [Finmap.lookup_erase_ne same]

theorem card_keys_shelf (g : c.Gated) : c.shelf.keys.card = c.entries.length := by
  have keys : c.shelf.keys = (c.entries.map fun e => e.target.fingerprint).toFinset := by
    ext f
    rw [Finmap.mem_keys, shelf, Finmap.mem_list_toFinmap, List.mem_toFinset, List.mem_map]
    simp only [List.mem_map, Sigma.mk.injEq]
    constructor
    · rintro ⟨_, e, he, hf, -⟩
      exact ⟨e, he, hf⟩
    · rintro ⟨e, he, hf⟩
      exact ⟨_, e, he, hf, HEq.rfl⟩
  rw [keys, List.toFinset_card_of_nodup g.keyed, List.length_map]

/-! ### What calls find in the entries -/

section
variable {made : Nat → Lease → Prop} {past : List Lease} {i : Nat} {e : Entry κ} {l : Lease}

theorem performs_invalidate (entry : c.entry? f = some e) :
    Registry.Performs (α := α) made ⟨c.shelf, past⟩ ⟨i, (.invalidate f : Call κ), .removed true⟩
      ⟨c.shelf.erase f, past⟩ := by
  have found : (c.shelf.lookup f).isSome = true := by
    rw [lookup_shelf, entry]
    rfl
  rw [← found]
  exact .invalidate

theorem performs_invalidate_of_absent (absent : c.entry? f = none) :
    Registry.Performs (α := α) made ⟨c.shelf, past⟩ ⟨i, (.invalidate f : Call κ), .removed false⟩
      ⟨c.shelf, past⟩ := by
  have missing : (c.shelf.lookup f).isSome = false := by
    rw [lookup_shelf_of_absent absent]
    rfl
  have performs : Registry.Performs (α := α) made ⟨c.shelf, past⟩
      ⟨i, (.invalidate f : Call κ), .removed (c.shelf.lookup f).isSome⟩ ⟨c.shelf.erase f, past⟩ := .invalidate
  rwa [missing, shelf_erase_of_absent absent] at performs

theorem performs_invalidateLease (entry : c.entry? l.fingerprint = some e) (same : e.generation = l.generation) :
    Registry.Performs (α := α) made ⟨c.shelf, past⟩ ⟨i, (.invalidateLease l : Call κ), .removed true⟩
      ⟨c.shelf.erase l.fingerprint, past⟩ := by
  refine .evict ⟨e.handle, ?_⟩
  rw [lookup_shelf, entry, ← same]
  rfl

theorem performs_invalidateLease_of_stale
    (stale : ∀ e, c.entry? l.fingerprint = some e → e.generation ≠ l.generation) :
    Registry.Performs (α := α) made ⟨c.shelf, past⟩ ⟨i, (.invalidateLease l : Call κ), .removed false⟩
      ⟨c.shelf, past⟩ := by
  refine .spare fun handle found => ?_
  rw [lookup_shelf, Option.map_eq_some_iff] at found
  obtain ⟨e, entry, same⟩ := found
  exact stale e entry (congrArg Prod.fst same)

theorem performs_contains :
    Registry.Performs (α := α) made ⟨c.shelf, past⟩
      ⟨i, (.contains f : Call κ), .contained (c.entry? f).isSome⟩ ⟨c.shelf, past⟩ := by
  have found : (c.entry? f).isSome = (c.shelf.lookup f).isSome := by rw [lookup_shelf, Option.isSome_map]
  rw [found]
  exact .contains

theorem performs_length (g : c.Gated) :
    Registry.Performs (α := α) made ⟨c.shelf, past⟩ ⟨i, (.length : Call κ), .counted c.entries.length⟩
      ⟨c.shelf, past⟩ := by
  rw [← card_keys_shelf g]
  exact .length

end

end Cache

end StoreAccess
