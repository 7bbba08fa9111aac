import StoreAccess.Proofs.Cache.Generations
import StoreAccess.Proofs.Cache.Probes

/-! Rounds of probes with no other call under way. What a round does with one entry keeps all others, so that it
    replaces exactly the handles that failed their probes, and comes to the same in whichever order it finds the
    entries, except for which new entry has which handle and generation. -/

namespace StoreAccess

variable {κ α : Type} [BackendConfig κ] {answer : Request κ → Reply α} {i : Nat} {h : History κ α} {c d c₀ : Cache κ α}
  {e : Entry κ}

/-! ### What comes of it -/

namespace Stock

variable {s t : Stock κ} {l made : List (Entry κ)}

/-- The handle of an entry of this target failed its probe. -/
def gone (answer : Request κ → Reply α) (l : List (Entry κ)) (e : Entry κ) : Bool :=
  l.any fun e' => !e'.alive answer && e'.target.fingerprint == e.target.fingerprint

/-- What probing the entries of a list makes of a stock: those that failed give way to the entries that were made, in
    the order of the list. -/
structure Renews (answer : Request κ → Reply α) (i : Nat) (l : List (Entry κ)) (s : Stock κ) (made : List (Entry κ))
    (t : Stock κ) : Prop where
  entries : t.entries = (s.entries.filter fun e => !gone answer l e) ++ made
  targets : made.map Entry.target = (l.filter (Entry.renewed answer)).map Entry.target
  handles : made.map Entry.handle = List.range' (s.stats.dials + 1) made.length
  generations : made.map Entry.generation = List.range' (s.generation + 1) made.length
  generation : t.generation = s.generation + made.length
  stats : t.stats =
    { s.stats with
      dials := s.stats.dials + made.length
      dialFailures := s.stats.dialFailures + l.countP fun e => !e.alive answer && !e.dialable answer
      misses := s.stats.misses + l.countP fun e => !e.alive answer
      invalidations := s.stats.invalidations + l.countP fun e => !e.alive answer
      closes := s.stats.closes + l.countP fun e => !e.alive answer
      probeFailures := s.stats.probeFailures + l.countP fun e => !e.alive answer }
  closeCalls : t.closeCalls = s.closeCalls ++ (l.filter fun e => !e.alive answer).map Entry.lease
  dialings : t.dialings = s.dialings ++ made.map (i, ·)
  closed : t.closed = s.closed ++ (l.filter fun e => !e.alive answer).map Entry.lease

theorem gone_cons_of_alive (alive : e.alive answer = true) : gone answer (e :: l) = gone answer l := by
  funext e'
  simp [gone, alive]

theorem filter_gone_cons (dead : e.alive answer = false) (entries : List (Entry κ)) :
    (entries.filter fun e' => !gone answer (e :: l) e') =
      (entries.filter fun e' => e'.target.fingerprint != e.target.fingerprint).filter fun e' => !gone answer l e' := by
  rw [List.filter_filter]
  refine List.filter_congr fun e' _ => ?_
  rw [gone, List.any_cons, dead, Bool.not_or, Bool.not_false, Bool.true_and, Bool.and_comm, gone, bne,
    Bool.beq_comm]

theorem not_gone_of_other (other : e.target.fingerprint ∉ l.map fun e => e.target.fingerprint) {e' : Entry κ}
    (same : e'.target = e.target) : gone answer l e' = false := by
  rw [gone, List.any_eq_false]
  intro x there
  have different : x.target.fingerprint ≠ e.target.fingerprint := fun same => other (List.mem_map.mpr ⟨x, there, same⟩)
  simp [same, different]

namespace Renews

theorem cons_alive (alive : e.alive answer = true) (rest : Renews answer i l s made t) :
    Renews answer i (e :: l) s made t where
  entries := by rw [gone_cons_of_alive alive, rest.entries]
  targets := by rw [List.filter_cons_of_neg (by simp [Entry.renewed, alive]), rest.targets]
  handles := rest.handles
  generations := rest.generations
  generation := rest.generation
  stats := by
    simp only [rest.stats, List.countP_cons, alive, Bool.not_true, Bool.false_and, Bool.false_eq_true, if_false,
      Nat.add_zero]
  closeCalls := by rw [List.filter_cons_of_neg (by simp [alive]), rest.closeCalls]
  dialings := rest.dialings
  closed := by rw [List.filter_cons_of_neg (by simp [alive]), rest.closed]

theorem cons_lost (dead : e.alive answer = false) (undialable : e.dialable answer = false)
    (rest : Renews answer i l (((((s.record .probeFailure).evict e).shut e).record .miss).record .dialFailure) made t) :
    Renews answer i (e :: l) s made t where
  entries := by rw [filter_gone_cons dead, rest.entries]; rfl
  targets := by rw [List.filter_cons_of_neg (by simp [Entry.renewed, undialable]), rest.targets]
  handles := rest.handles
  generations := rest.generations
  generation := rest.generation
  stats := by
    rw [rest.stats]
    simp only [record, shut, evict, CacheStats.record, dead, undialable, Bool.not_false, Bool.and_self,
      List.countP_cons_of_pos, CacheStats.mk.injEq, true_and]
    omega
  closeCalls := by
    rw [List.filter_cons_of_pos (by simp [dead]), rest.closeCalls, List.map_cons, List.append_cons]
    rfl
  dialings := rest.dialings
  closed := by
    rw [List.filter_cons_of_pos (by simp [dead]), rest.closed, List.map_cons, List.append_cons]
    rfl

theorem cons_renewed (dead : e.alive answer = false) (dialable : e.dialable answer = true)
    (other : e.target.fingerprint ∉ l.map fun e => e.target.fingerprint) {u : Stock κ}
    (missed : u = (((s.record .probeFailure).evict e).shut e).record .miss)
    (rest : Renews answer i l ((u.dial i e.target).put (u.next e.target)) made t) :
    Renews answer i (e :: l) s (u.next e.target :: made) t where
  entries := by
    have gone : ((s.evict e).entries.filter fun e' => e'.target.fingerprint != e.target.fingerprint) =
        (s.evict e).entries := by
      rw [evict, List.filter_filter]
      exact List.filter_congr fun e' _ => Bool.and_self _
    have stays : Stock.gone answer l (u.next e.target) = false := not_gone_of_other other rfl
    have kept : [u.next e.target].filter (fun e' => !Stock.gone answer l e') = [u.next e.target] := by
      rw [List.filter_cons_of_pos (by rw [stays, Bool.not_false]), List.filter_nil]
    have entries : ((u.dial i e.target).put (u.next e.target)).entries = (s.evict e).entries ++ [u.next e.target] := by
      rw [← gone, missed]
      rfl
    rw [filter_gone_cons dead, rest.entries, entries, List.filter_append, kept, List.append_assoc]
    rfl
  targets := by
    rw [List.filter_cons_of_pos (by simp [Entry.renewed, dead, dialable]), List.map_cons, rest.targets]
    rfl
  handles := by
    rw [List.map_cons, rest.handles, List.length_cons, List.range'_succ, missed]
    rfl
  generations := by
    rw [List.map_cons, rest.generations, List.length_cons, List.range'_succ, missed]
    rfl
  generation := by
    rw [rest.generation, List.length_cons, Nat.add_comm made.length, ← Nat.add_assoc, missed]
    rfl
  stats := by
    rw [rest.stats, missed]
    simp only [put, dial, record, shut, evict, CacheStats.record, dead, dialable, Bool.not_false, Bool.not_true,
      Bool.and_false, Bool.false_eq_true, not_false_eq_true, List.length_cons, List.countP_cons_of_neg,
      List.countP_cons_of_pos, CacheStats.mk.injEq, true_and]
    omega
  closeCalls := by
    rw [List.filter_cons_of_pos (by simp [dead]), rest.closeCalls, List.map_cons, List.append_cons, missed]
    rfl
  dialings := by
    rw [rest.dialings, List.map_cons, List.append_cons, missed]
    rfl
  closed := by
    rw [List.filter_cons_of_pos (by simp [dead]), rest.closed, List.map_cons, List.append_cons, missed]
    rfl

theorem length_made (renews : Renews answer i l s made t) : made.length = l.countP (Entry.renewed answer) := by
  rw [List.countP_eq_length_filter, ← List.length_map Entry.target, renews.targets, List.length_map]

/-- What was made is of the target of an entry that was replaced. -/
theorem of_made (renews : Renews answer i l s made t) {e' : Entry κ} (there : e' ∈ made) :
    ∃ e ∈ l, e.renewed answer = true ∧ e.target = e'.target := by
  have target : e'.target ∈ made.map Entry.target := List.mem_map_of_mem there
  rw [renews.targets] at target
  obtain ⟨e, there, same⟩ := List.mem_map.mp target
  obtain ⟨there, renewed⟩ := List.mem_filter.mp there
  exact ⟨e, there, renewed, same⟩

theorem exists_made (renews : Renews answer i l s made t) (there : e ∈ l) (renewed : e.renewed answer = true) :
    ∃ e' ∈ made, e'.target = e.target := by
  have target : e.target ∈ made.map Entry.target := by
    rw [renews.targets]
    exact List.mem_map_of_mem (List.mem_filter.mpr ⟨there, renewed⟩)
  exact List.mem_map.mp target

/-- What was made is newer than what there was. -/
theorem newer (renews : Renews answer i l s made t) (there : e ∈ made) :
    s.generation < e.generation ∧ s.stats.dials < e.handle := by
  have generation : e.generation ∈ made.map Entry.generation := List.mem_map_of_mem there
  have handle : e.handle ∈ made.map Entry.handle := List.mem_map_of_mem there
  rw [renews.generations, List.mem_range'_1] at generation
  rw [renews.handles, List.mem_range'_1] at handle
  exact ⟨generation.1, handle.1⟩

end Renews

variable (answer i) in
theorem renews_foldl (keyed : (l.map fun e => e.target.fingerprint).Nodup) (s : Stock κ) :
    ∃ made, Renews answer i l s made (l.foldl (probe answer i) s) := by
  induction l generalizing s with
  | nil => exact ⟨[], by simp [gone], rfl, rfl, rfl, rfl, rfl, by simp, by simp, by simp⟩
  | cons e l ih =>
    rw [List.map_cons, List.nodup_cons] at keyed
    obtain ⟨made, rest⟩ := ih keyed.2 (s.probe answer i e)
    rw [List.foldl_cons]
    generalize l.foldl (probe answer i) (s.probe answer i e) = t at rest
    unfold probe at rest
    cases alive : e.alive answer <;> cases dialable : e.dialable answer <;>
      simp only [alive, dialable, Bool.false_eq_true, if_true, if_false] at rest
    case true.false | true.true => exact ⟨made, rest.cons_alive alive⟩
    case false.false => exact ⟨made, rest.cons_lost alive dialable⟩
    case false.true => exact ⟨_, rest.cons_renewed alive dialable keyed.1 rfl⟩

theorem gone_of_mem (keyed : (l.map fun e => e.target.fingerprint).Nodup) (there : e ∈ l) :
    gone answer l e = !e.alive answer := by
  cases alive : e.alive answer with
  | true =>
    rw [gone, Bool.not_true, List.any_eq_false]
    intro e' there'
    by_cases same : e'.target.fingerprint = e.target.fingerprint
    · rw [List.inj_on_of_nodup_map keyed there' there same, alive]
      simp
    · simp [same]
  | false =>
    rw [gone, Bool.not_false, List.any_eq_true]
    exact ⟨e, there, by simp [alive]⟩

end Stock

/-! ### Rounds -/

/-- A call that probes all entries goes its way from `c` to `d`, and answers how many handles were replaced. -/
structure Round (answer : Request κ → Reply α) (c : Cache κ α) (h : History κ α) (d : Cache κ α) (n : Nat) : Prop where
  way : Way answer c.tasks.length (c.start .probeOnce) h d
  answered : d.answer? c.tasks.length = some (.replaced n)

/-- What a round has done. -/
structure Probed (answer : Request κ → Reply α) (c : Cache κ α) (h : History κ α) (d : Cache κ α) (n : Nat) : Prop where
  /-- An entry whose handle answers its probe is as it was, and its handle is open. -/
  kept : ∀ e ∈ c.entries, e.alive answer = true →
    d.entry? e.target.fingerprint = some e ∧ e.lease ∉ d.closeCalls ∧ e.lease ∉ h.closed
  /-- Each other handle was closed once, and by this round. -/
  closed : ∀ e ∈ c.entries, e.alive answer = false →
    e.lease ∉ c.closeCalls ∧ d.closeCalls.count e.lease = 1 ∧ h.closed.count e.lease = 1
  /-- If its target can be dialed, a handle takes its place that the round has dialed for this target, with a greater
      generation. -/
  replaced : ∀ e ∈ c.entries, e.alive answer = false → e.dialable answer = true →
    ∃ e', d.entry? e.target.fingerprint = some e' ∧ e'.target = e.target ∧ e.generation < e'.generation ∧
      c.stats.dials < e'.handle ∧ (c.tasks.length, e') ∈ h.dialings
  /-- If not, the target is not cached any more. -/
  absent : ∀ e ∈ c.entries, e.alive answer = false → e.dialable answer = false →
    d.entry? e.target.fingerprint = none
  /-- Nothing else is cached. -/
  entries : ∀ e' ∈ d.entries, ∃ e ∈ c.entries, e.target = e'.target
  count : n = c.entries.countP fun e => !e.alive answer && e.dialable answer
  stats : d.stats =
    { c.stats with
      dials := c.stats.dials + n
      dialFailures := c.stats.dialFailures + c.entries.countP fun e => !e.alive answer && !e.dialable answer
      misses := c.stats.misses + c.entries.countP fun e => !e.alive answer
      invalidations := c.stats.invalidations + c.entries.countP fun e => !e.alive answer
      closes := c.stats.closes + c.entries.countP fun e => !e.alive answer
      probeFailures := c.stats.probeFailures + c.entries.countP fun e => !e.alive answer }

/-- Two caches differ only in which entry has which handle and generation. -/
structure Alike (c d : Cache κ α) : Prop where
  targets : (c.entries.map Entry.target).Perm (d.entries.map Entry.target)
  handles : (c.entries.map Entry.handle).Perm (d.entries.map Entry.handle)
  generations : (c.entries.map Entry.generation).Perm (d.entries.map Entry.generation)
  generation : c.generation = d.generation
  stats : c.stats = d.stats

namespace Cache

/-- No call is under way, and the entries are what calls can have left. -/
structure Rested (c : Cache κ α) : Prop where
  orderly : c.Orderly
  gated : c.Gated
  quiet : ∀ j p, c.phase? j = some p → p.isOver = true
  checks : ∀ e ∈ c.entries, e.target.check = .ok ()
  generation_le : ∀ e ∈ c.entries, e.generation ≤ c.generation
  uncalled : ∀ e ∈ c.entries, e.lease ∉ c.closeCalls

namespace Rested

theorem reorder (rested : c.Rested) {es : List (Entry κ)} (all : es.Perm c.entries) (order : EntryOrder) :
    Rested { c with entries := es, order := order } where
  orderly := ⟨rested.orderly.locks, rested.orderly.waiting, rested.orderly.placed⟩
  gated := by
    refine ⟨rested.gated.first, fun j t f task fills e he => ?_, ?_⟩
    · exact rested.gated.absent j t f task fills e (all.mem_iff.mp he)
    · exact (all.map _).nodup_iff.mpr rested.gated.keyed
  quiet := rested.quiet
  checks e he := rested.checks e (all.mem_iff.mp he)
  generation_le e he := rested.generation_le e (all.mem_iff.mp he)
  uncalled e he := rested.uncalled e (all.mem_iff.mp he)

/-- A round comes to its answer, and to what probing one entry after the other comes to. -/
theorem exists_round (rested : c.Rested) (lawful : Lawful answer) :
    ∃ h d noted made, noted.Perm c.entries ∧ Round answer c h d (noted.countP (Entry.renewed answer)) ∧ d.Gated ∧
      Stock.Renews answer c.tasks.length noted (c.stock []) made (d.stock h) := by
  have begins : Comes answer c.tasks.length (c.start .probeOnce) .noting (c.stock []) :=
    ⟨[], c.start .probeOnce, .nil, Solo.start rested.orderly rested.quiet .probeOnce, rfl⟩
  obtain ⟨noted, all, noting⟩ := begins.note
  have keyed : (noted.map fun e => e.target.fingerprint).Nodup := (all.map _).nodup_iff.mpr rested.gated.keyed
  have found : ∀ e ∈ noted, (c.stock []).find? e.target.fingerprint = some e :=
    fun e there => entry?_of_mem rested.gated (all.mem_iff.mp there)
  have checks : ∀ e ∈ noted, e.target.check = .ok () := fun e there => rested.checks e (all.mem_iff.mp there)
  obtain ⟨h, d, way, solo, stock⟩ := noting.round lawful checks keyed found
  obtain ⟨made, renews⟩ := Stock.renews_foldl answer c.tasks.length keyed (c.stock [])
  refine ⟨h, d, noted, made, all, ⟨way, ?_⟩, ?_, stock ▸ renews⟩
  · simp [answer?, solo.task, Phase.answer?]
  · exact way.run.keeps (fun _ _ _ g move => g.move move) rested.gated.start

variable (answer) in
/-- The handle of an entry is among those that were closed iff it failed its probe. -/
theorem count_dead (rested : c.Rested) {noted : List (Entry κ)} (all : noted.Perm c.entries) (there : e ∈ c.entries) :
    ((noted.filter fun e => !e.alive answer).map Entry.lease).count e.lease = (!e.alive answer).toNat := by
  have leases : (c.entries.map Entry.lease).Nodup := by
    refine List.Nodup.of_map Lease.fingerprint ?_
    rw [List.map_map]
    exact rested.gated.keyed
  rw [((all.filter _).map Entry.lease).count_eq]
  cases alive : e.alive answer with
  | true =>
    refine List.count_eq_zero.mpr fun dead => ?_
    obtain ⟨e', there', same⟩ := List.mem_map.mp dead
    obtain ⟨there', dead⟩ := List.mem_filter.mp there'
    rw [List.inj_on_of_nodup_map leases there' there same, alive] at dead
    cases dead
  | false =>
    refine List.count_eq_one_of_mem (leases.sublist (List.filter_sublist.map _)) ?_
    exact List.mem_map.mpr ⟨e, List.mem_filter.mpr ⟨there, by rw [alive]; rfl⟩, rfl⟩

end Rested

end Cache

/-- There is one round. -/
theorem Round.unique {h' : History κ α} {d' : Cache κ α} {n n' : Nat} (round : Round answer c h d n)
    (other : Round answer c h' d' n') : h = h' ∧ d = d' ∧ n = n' := by
  have ended {d : Cache κ α} {i n : Nat} (answered : d.answer? i = some (.replaced n)) :
      d.phase? i = some (.finished (.replaced n)) := by
    simp only [Cache.answer?, Option.bind_eq_bind, Option.bind_eq_some_iff] at answered
    obtain ⟨⟨p, l⟩, task, answer⟩ := answered
    cases p <;> cases answer
    exact Cache.phase?_of_task task
  obtain ⟨rfl, rfl⟩ := round.way.unique other.way (ended round.answered) rfl (ended other.answered) rfl
  cases round.answered.symm.trans other.answered
  exact ⟨rfl, rfl, rfl⟩

section

variable {noted made : List (Entry κ)} (rested : c.Rested) (gated : d.Gated) (all : noted.Perm c.entries)
  (renews : Stock.Renews answer c.tasks.length noted (c.stock []) made (d.stock h))
include rested all renews

theorem Cache.Rested.entries_eq : d.entries = (c.entries.filter (Entry.alive answer)) ++ made := by
  have entries : d.entries = (c.entries.filter fun e => !Stock.gone answer noted e) ++ made := renews.entries
  have keyed : (noted.map fun e => e.target.fingerprint).Nodup := (all.map _).nodup_iff.mpr rested.gated.keyed
  rw [entries]
  refine congrArg (· ++ made) (List.filter_congr fun e there => ?_)
  rw [Stock.gone_of_mem keyed (all.mem_iff.mpr there), Bool.not_not]

include gated in
theorem Cache.Rested.probed : Probed answer c h d (noted.countP (Entry.renewed answer)) := by
  have entries := rested.entries_eq all renews
  have calls : d.closeCalls = c.closeCalls ++ (noted.filter fun e => !e.alive answer).map Entry.lease :=
    renews.closeCalls
  have closed : h.closed = (noted.filter fun e => !e.alive answer).map Entry.lease := renews.closed
  have dialings : h.dialings = made.map (c.tasks.length, ·) := renews.dialings
  have of_fingerprint : ∀ e ∈ c.entries, ∀ e' ∈ c.entries, e.target.fingerprint = e'.target.fingerprint → e = e' :=
    fun e there e' there' same => List.inj_on_of_nodup_map rested.gated.keyed there there' same
  refine ⟨fun e there alive => ?_, fun e there dead => ?_, fun e there dead dialable => ?_,
    fun e there dead undialable => ?_, fun e' there => ?_, all.countP_eq _, ?_⟩
  · have count := rested.count_dead answer all there
    rw [alive] at count
    have unclosed := List.count_eq_zero.mp count
    have kept : e ∈ d.entries := entries ▸ List.mem_append_left _ (List.mem_filter.mpr ⟨there, alive⟩)
    refine ⟨Cache.entry?_of_mem gated kept, ?_, closed ▸ unclosed⟩
    rw [calls, List.mem_append, not_or]
    exact ⟨rested.uncalled e there, unclosed⟩
  · have count := rested.count_dead answer all there
    rw [dead] at count
    refine ⟨rested.uncalled e there, ?_, closed ▸ count⟩
    rw [calls, List.count_append, List.count_eq_zero.mpr (rested.uncalled e there), count]
    rfl
  · obtain ⟨e', there', same⟩ :=
      renews.exists_made (all.mem_iff.mpr there) (by rw [Entry.renewed, dead, dialable]; rfl)
    obtain ⟨generation, handle⟩ := renews.newer there'
    have entry := Cache.entry?_of_mem gated (entries ▸ List.mem_append_right _ there' : e' ∈ d.entries)
    rw [same] at entry
    refine ⟨e', entry, same, Nat.lt_of_le_of_lt (rested.generation_le e there) generation, handle, ?_⟩
    rw [dialings]
    exact List.mem_map_of_mem there'
  · refine Cache.entry?_eq_none.mpr fun x there' same => ?_
    rw [entries, List.mem_append] at there'
    rcases there' with kept | new
    · obtain ⟨kept, alive⟩ := List.mem_filter.mp kept
      rw [of_fingerprint x kept e there same, dead] at alive
      cases alive
    · obtain ⟨y, there', renewed, target⟩ := renews.of_made new
      obtain rfl := of_fingerprint y (all.mem_iff.mp there') e there (by rw [target, same])
      rw [Entry.renewed, undialable, Bool.and_false] at renewed
      cases renewed
  · rw [entries, List.mem_append] at there
    rcases there with kept | new
    · exact ⟨e', (List.mem_filter.mp kept).1, rfl⟩
    · obtain ⟨e, there, -, target⟩ := renews.of_made new
      exact ⟨e, all.mem_iff.mp there, target⟩
  · rw [← renews.length_made]
    simp only [← all.countP_eq]
    exact renews.stats

/-- The order of the entries decides only which new entry gets which handle and generation. -/
theorem Cache.Rested.alike {c' d' : Cache κ α} {h' : History κ α} {noted' made' : List (Entry κ)}
    (rested' : c'.Rested) (all' : noted'.Perm c'.entries)
    (renews' : Stock.Renews answer c'.tasks.length noted' (c'.stock []) made' (d'.stock h'))
    (both : c.entries.Perm c'.entries) (generation : c.generation = c'.generation) (stats : c.stats = c'.stats) :
    Alike d d' := by
  have entries := rested.entries_eq all renews
  have entries' := rested'.entries_eq all' renews'
  have order : noted.Perm noted' := (all.trans both).trans all'.symm
  have length : made.length = made'.length := by rw [renews.length_made, renews'.length_made, order.countP_eq]
  have kept := both.filter (Entry.alive answer)
  have generations : made.map Entry.generation = made'.map Entry.generation := by
    rw [renews.generations, renews'.generations, length]
    exact congrArg (List.range' · made'.length) (congrArg (· + 1) generation)
  have handles : made.map Entry.handle = made'.map Entry.handle := by
    rw [renews.handles, renews'.handles, length]
    exact congrArg (List.range' · made'.length) (congrArg (·.dials + 1) stats)
  refine ⟨?_, ?_, ?_, ?_, ?_⟩
  · rw [entries, entries', List.map_append, List.map_append, renews.targets, renews'.targets]
    exact (kept.map _).append ((order.filter _).map _)
  · rw [entries, entries', List.map_append, List.map_append, handles]
    exact (kept.map _).append_right _
  · rw [entries, entries', List.map_append, List.map_append, generations]
    exact (kept.map _).append_right _
  · have after : d.generation = c.generation + made.length := renews.generation
    have after' : d'.generation = c'.generation + made'.length := renews'.generation
    rw [after, after', generation, length]
  · have after := renews.stats
    have after' := renews'.stats
    change d.stats = _ at after
    change d'.stats = _ at after'
    rw [after, after', length]
    simp only [order.countP_eq]
    rw [show (c.stock []).stats = (c'.stock []).stats from stats]

end

theorem Target.check_eq_ok_of {target : Target κ} (config : BackendConfig.check target.config = .ok ())
    (pool : (BackendConfig.pool target.config).check = .ok ()) : target.check = .ok () := by
  rw [Target.check, config]
  exact pool

theorem Run.rested {backend : BackendKind} {options : CacheOptions} {order : EntryOrder}
    (new : Cache.ofOptions backend options order = .ok c₀) (run : Run c₀ h c)
    (quiet : ∀ j p, c.phase? j = some p → p.isOver = true) : c.Rested := by
  have k := run.ledger new
  refine ⟨run.orderly new, k.gated, quiet, fun e there => ?_, fun e there => ?_, fun e there => ?_⟩
  · have origins := run.origins new
    obtain ⟨j, dialing⟩ := origins.cached e there
    obtain ⟨x, moved, made⟩ := History.mem_dialings.mp dialing
    have makes := origins.makes x moved j e made
    exact Target.check_eq_ok_of makes.config makes.pool
  · exact k.generation_le (k.inserted_subset (k.inserted_of_cached (List.mem_map_of_mem there)))
  · exact k.uncalled_of_cached (List.mem_map_of_mem there)

/-- A round of probes that runs alone comes to its answer, in whichever order it finds the entries. It replaces exactly
    the dead handles, as far as their targets can be dialed anew, and for each order it comes to the same but for the
    numbers of the new handles and their generations. -/
theorem Run.round_replaces_dead {backend : BackendKind} {options : CacheOptions} {order : EntryOrder}
    (new : Cache.ofOptions backend options order = .ok c₀) (run : Run c₀ h c)
    (quiet : ∀ j p, c.phase? j = some p → p.isOver = true) (lawful : Lawful answer) {es : List (Entry κ)}
    (all : es.Perm c.entries) (order' : EntryOrder) :
    (∃ h' d n, Round answer { c with entries := es, order := order' } h' d n) ∧
      ∀ h' d n, Round answer { c with entries := es, order := order' } h' d n →
        Probed answer { c with entries := es, order := order' } h' d n ∧
          ∀ es', es'.Perm c.entries → ∀ order'' h'' d' n',
            Round answer { c with entries := es', order := order'' } h'' d' n' → n = n' ∧ Alike d d' := by
  have rested := (run.rested new quiet).reorder all order'
  obtain ⟨h₁, d₁, noted, made, perm, round₁, gated, renews⟩ := rested.exists_round lawful
  refine ⟨⟨h₁, d₁, _, round₁⟩, fun h' d n round => ?_⟩
  obtain ⟨rfl, rfl, rfl⟩ := round₁.unique round
  refine ⟨rested.probed gated perm renews, fun es' all' order'' h'' d' n' other => ?_⟩
  have rested' := (run.rested new quiet).reorder all' order''
  obtain ⟨h₂, d₂, noted', made', perm', round₂, -, renews'⟩ := rested'.exists_round lawful
  obtain ⟨rfl, rfl, rfl⟩ := round₂.unique other
  have both : es.Perm es' := all.trans all'.symm
  have order : noted.Perm noted' := (perm.trans both).trans perm'.symm
  exact ⟨order.countP_eq _, rested.alike perm renews rested' perm' renews' both rfl rfl⟩

/-- Two sites are dialed, one after the other. -/
def Site.paired : List (Move Site Nat) :=
  [.start (.acquire ⟨7, .default⟩), .step 0, .step 0, .step 0, .step 0, .step 0, .step 0, .reply 0 .success, .step 0,
   .step 0, .start (.acquire ⟨8, .default⟩), .step 1, .step 1, .step 1, .step 1, .step 1, .step 1, .reply 1 .success,
   .step 1, .step 1]

/-- A client whose first handle does not answer its probe. -/
def Site.firstSilent : Request Site → Reply Nat
  | .ping l => if l.handle = 1 then .overdue else .success
  | .operate _ => .value 0
  | _ => .success

theorem Site.first_handle_replaced :
    let c := (Site.replay Site.paired).2
    Cache.ofOptions .keyValue .default .ofInsertion = .ok Site.cache ∧ Run Site.cache (Site.replay Site.paired).1 c ∧
      (∀ j p, c.phase? j = some p → p.isOver = true) ∧ Lawful Site.firstSilent ∧
      ∃ h d, Round Site.firstSilent { c with entries := c.entries.reverse } h d 1 ∧
        (d.entry? ⟨[8]⟩).map Entry.lease = some ⟨2, ⟨[8]⟩, 2⟩ ∧
        (∃ e, d.entry? ⟨[7]⟩ = some e ∧ 2 < e.handle ∧ 1 < e.generation) ∧
        d.closeCalls.count ⟨1, ⟨[7]⟩, 1⟩ = 1 := by
  intro c
  have run := Site.run Site.paired rfl
  have quiet : ∀ j p, c.phase? j = some p → p.isOver = true := by
    rintro (_ | _ | j) p hp <;> cases hp <;> rfl
  have lawful : Lawful Site.firstSilent := by
    rintro (_ | _ | l | _)
    case ping =>
      unfold Site.firstSilent
      dsimp only
      split <;> rfl
    all_goals rfl
  obtain ⟨⟨h, d, n, round⟩, rounds⟩ :=
    Run.round_replaces_dead Site.new run quiet lawful (List.reverse_perm c.entries) c.order
  obtain ⟨probed, -⟩ := rounds h d n round
  have one : n = 1 := probed.count
  subst one
  have seven : (⟨.ofConfig ⟨7, .default⟩, 1, 1⟩ : Entry Site) ∈ c.entries.reverse :=
    List.mem_cons_of_mem _ List.mem_cons_self
  have eight : (⟨.ofConfig ⟨8, .default⟩, 2, 2⟩ : Entry Site) ∈ c.entries.reverse := List.mem_cons_self
  obtain ⟨kept, -⟩ := probed.kept _ eight rfl
  obtain ⟨-, once, -⟩ := probed.closed _ seven rfl
  obtain ⟨e, entry, -, generation, handle, -⟩ := probed.replaced _ seven rfl rfl
  exact ⟨Site.new, run, quiet, lawful, h, d, round, congrArg (Option.map Entry.lease) kept,
    ⟨e, entry, handle, generation⟩, once⟩

end StoreAccess
