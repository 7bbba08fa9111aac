import StoreAccess.Mysql.Client
import StoreAccess.Proofs.Data.Lists

/-! What can be said in a dialogue, whatever the server does and wherever the dialogue is left. A transaction runs
    its statement once for each list of parameters, in order. It commits behind the last and nowhere else, and
    behind the first that fails it rolls back. -/

namespace StoreAccess
namespace Mysql

variable {σ α β : Type}

namespace Dialogue

/-- What a dialogue says and hears on one of its ways, and what it ends with unless it is left. -/
inductive Path : Dialogue α → List Exchange → Option α → Prop
  | done {a : α} : Path (done a) [] (some a)
  | left {o : Order} {next : Except ClientFault o.Yield → Dialogue α} : Path (order o next) [⟨o, none⟩] none
  | heard {o : Order} {next : Except ClientFault o.Yield → Dialogue α} {r : Except ClientFault o.Yield}
      {said : List Exchange} {result : Option α} (more : Path (next r) said result) :
      Path (order o next) (⟨o, some r⟩ :: said) result
  | log {e : LogEvent} {rest : Dialogue α} {said : List Exchange} {result : Option α}
      (more : Path rest said result) : Path (log e rest) said result

/-! ### Time -/

section
variable {server : TimedServer σ} {limit : Option Nat} {s : σ} {elapsed : Nat} {o : Order}
  {next : Except ClientFault o.Yield → Dialogue α}

theorem holdWithin_of_late (late : limit.any (· < elapsed + (server.carryOut s o).2.1) = true) :
    (order o next).holdWithin server limit s elapsed =
      ⟨(server.carryOut s o).1, elapsed + (server.carryOut s o).2.1, [⟨o, none⟩], none, []⟩ :=
  if_pos late

theorem holdWithin_of_intime (inTime : ¬limit.any (· < elapsed + (server.carryOut s o).2.1) = true) :
    (order o next).holdWithin server limit s elapsed =
      let held := (next (server.carryOut s o).2.2).holdWithin server limit (server.carryOut s o).1
        (elapsed + (server.carryOut s o).2.1)
      { held with exchanges := ⟨o, some (server.carryOut s o).2.2⟩ :: held.exchanges } :=
  if_neg inTime

end

/-- However long the server takes, a dialogue that is held goes one of its ways. -/
theorem path_holdWithin (server : TimedServer σ) (limit : Option Nat) (d : Dialogue α) (s : σ) (elapsed : Nat) :
    d.Path (d.holdWithin server limit s elapsed).exchanges (d.holdWithin server limit s elapsed).result := by
  induction d generalizing s elapsed with
  | done a => exact .done
  | order o next ih =>
    by_cases late : limit.any (· < elapsed + (server.carryOut s o).2.1) = true
    · rw [holdWithin_of_late late]
      exact .left
    · rw [holdWithin_of_intime late]
      exact .heard (ih _ _ _)
  | log e rest ih => exact .log (ih s elapsed)

section
variable {said : List Exchange} {context : String} {o : Order}

theorem path_andThen {d : Dialogue α} {f : α → Dialogue β} {result : Option β}
    (path : (d.andThen f).Path said result) :
    (d.Path said none ∧ result = none) ∨
      ∃ a before after, said = before ++ after ∧ d.Path before (some a) ∧ (f a).Path after result := by
  induction d generalizing said with
  | done a => exact Or.inr ⟨a, [], said, rfl, .done, path⟩
  | order o next ih =>
    cases path with
    | left => exact Or.inl ⟨.left, rfl⟩
    | heard more =>
      rcases ih _ more with ⟨left, none⟩ | ⟨a, before, after, rfl, first, second⟩
      · exact Or.inl ⟨.heard left, none⟩
      · exact Or.inr ⟨a, _, after, rfl, .heard first, second⟩
  | log e rest ih =>
    cases path with
    | log more =>
      rcases ih more with ⟨left, none⟩ | ⟨a, before, after, rfl, first, second⟩
      · exact Or.inl ⟨.log left, none⟩
      · exact Or.inr ⟨a, before, after, rfl, .log first, second⟩

/-- A dialogue whose result is only renamed. -/
theorem path_rename {d : Dialogue α} {f : α → β} {result : Option β}
    (path : (d.andThen fun a => done (f a)).Path said result) : ∃ r, d.Path said r ∧ result = r.map f := by
  rcases path_andThen path with ⟨left, rfl⟩ | ⟨a, before, after, rfl, first, second⟩
  · exact ⟨none, left, rfl⟩
  · cases second
    exact ⟨some a, by rwa [List.append_nil], rfl⟩

theorem path_require {next : o.Yield → Dialogue (Except Error α)} {result : Option (Except Error α)}
    (path : (require context o next).Path said result) :
    (said = [⟨o, none⟩] ∧ result = none) ∨
      (∃ f, said = [⟨o, some (.error f)⟩] ∧ result = some (.error (f.during context))) ∨
      ∃ y rest, said = ⟨o, some (.ok y)⟩ :: rest ∧ (next y).Path rest result := by
  cases path with
  | left => exact Or.inl ⟨rfl, rfl⟩
  | @heard _ _ r rest _ more =>
    cases r with
    | ok y => exact Or.inr (Or.inr ⟨y, rest, rfl, more⟩)
    | error f =>
      cases more
      exact Or.inr (Or.inl ⟨f, rfl, rfl⟩)

end

end Dialogue

/-! ### Transactions -/

namespace Exchange

def begins : Exchange → Bool
  | ⟨.startTransaction, _⟩ => true
  | _ => false

/-- The server has acknowledged a commit. -/
def acknowledges : Exchange → Bool
  | ⟨.commit, some (.ok _)⟩ => true
  | _ => false

/-- A run of a statement with a list of parameters, up to its outcome. -/
def executed (sql : String) (params : List Value) (outcome : ExecOutcome) : Exchange :=
  ⟨.execute sql (params.map Datum.ofValue), some (.ok outcome)⟩

end Exchange

section
variable {sql : String} {batches rest : List (List Value)} {outcomes : List ExecOutcome} {said : List Exchange}
  {result : Option (Except Error (List ExecOutcome))}

/-- What is said in a transaction from some list of parameters on, with the outcomes up to there. -/
inductive Course (sql : String) : List (List Value) → List ExecOutcome → List Exchange →
    Option (Except Error (List ExecOutcome)) → Prop
  | committed {outcomes : List ExecOutcome} : Course sql [] outcomes [⟨.commit, some (.ok ())⟩] (some (.ok outcomes))
  | uncommitted {outcomes : List ExecOutcome} {reply : Option (Except ClientFault Unit)}
      {result : Option (Except Error (List ExecOutcome))} (refused : reply ≠ some (.ok ()))
      (failed : ∀ list, result ≠ some (.ok list)) : Course sql [] outcomes [⟨.commit, reply⟩] result
  | left {params : List Value} {rest : List (List Value)} {outcomes : List ExecOutcome} :
      Course sql (params :: rest) outcomes [⟨.execute sql (params.map Datum.ofValue), none⟩] none
  | failed {params : List Value} {rest : List (List Value)} {outcomes : List ExecOutcome} {fault : ClientFault}
      {reply : Option (Except ClientFault Unit)} {result : Option (Except Error (List ExecOutcome))}
      (failed : ∀ list, result ≠ some (.ok list)) :
      Course sql (params :: rest) outcomes
        [⟨.execute sql (params.map Datum.ofValue), some (.error fault)⟩, ⟨.rollback, reply⟩] result
  | executed {params : List Value} {rest : List (List Value)} {outcomes : List ExecOutcome} {outcome : ExecOutcome}
      {said : List Exchange} {result : Option (Except Error (List ExecOutcome))}
      (more : Course sql rest (outcomes ++ [outcome]) said result) :
      Course sql (params :: rest) outcomes (.executed sql params outcome :: said) result

theorem course_of_path (path : (Dialogue.executeEach sql rest outcomes).Path said result) :
    Course sql rest outcomes said result := by
  induction rest generalizing outcomes said with
  | nil =>
    rcases Dialogue.path_require path with ⟨rfl, rfl⟩ | ⟨fault, rfl, rfl⟩ | ⟨⟨⟩, _, rfl, more⟩
    · exact .uncommitted (by simp) (by simp)
    · exact .uncommitted (by simp) (by simp)
    · cases more
      exact .committed
  | cons params rest ih =>
    cases path with
    | left => exact .left
    | @heard _ _ r _ _ more =>
      cases r with
      | ok outcome => exact .executed (ih more)
      | error fault =>
        -- Whatever comes of the rollback, the error is that of the statement.
        cases more with
        | left => exact .failed (by simp)
        | @heard _ _ r _ _ more =>
          cases r with
          | ok => cases more; exact .failed (by simp)
          | error =>
            cases more with
            | log more => cases more; exact .failed (by simp)

/-- The runs of a statement with all lists of parameters. -/
def executions (sql : String) (batches : List (List Value)) (outcomes : List ExecOutcome) : List Exchange :=
  List.zipWith (Exchange.executed sql) batches outcomes

namespace Course

variable (course : Course sql rest outcomes said result)
include course

theorem unbegun : said.countP Exchange.begins = 0 := by
  induction course with
  | committed | uncommitted | left | failed => rfl
  | executed _ ih => exact ih

/-- A commit comes behind the last run and is the end. -/
theorem commit {before after : List Exchange} {reply : Option (Except ClientFault Unit)}
    (place : said = before ++ ⟨.commit, reply⟩ :: after) :
    after = [] ∧ ∃ list, list.length = rest.length ∧ before = executions sql rest list := by
  induction course generalizing before with
  | committed | uncommitted =>
    obtain ⟨rfl, -, rfl⟩ := eq_of_singleton place
    exact ⟨rfl, [], rfl, rfl⟩
  | left => cases (eq_of_singleton place).2.1
  | failed =>
    rcases List.cons_eq_append_iff.mp place with ⟨-, other⟩ | ⟨_, -, behind⟩
    · cases other
    · cases (eq_of_singleton behind).2.1
  | @executed _ _ _ outcome _ _ _ ih =>
    rcases List.cons_eq_append_iff.mp place with ⟨-, other⟩ | ⟨_, rfl, behind⟩
    · cases other
    · obtain ⟨rfl, list, each, rfl⟩ := ih behind
      exact ⟨rfl, outcome :: list, congrArg Nat.succ each, rfl⟩

/-- Behind a run that fails there is a rollback and nothing else. -/
theorem failure {before after : List Exchange} {text : String} {data : List Datum} {fault : ClientFault}
    (place : said = before ++ ⟨.execute text data, some (.error fault)⟩ :: after) :
    ∃ reply, after = [⟨.rollback, reply⟩] := by
  induction course generalizing before with
  | committed | uncommitted | left => cases (eq_of_singleton place).2.1
  | failed =>
    rcases List.cons_eq_append_iff.mp place with ⟨-, same⟩ | ⟨_, -, behind⟩
    · cases same
      exact ⟨_, rfl⟩
    · cases (eq_of_singleton behind).2.1
  | executed _ ih =>
    rcases List.cons_eq_append_iff.mp place with ⟨-, other⟩ | ⟨_, -, behind⟩
    · cases other
    · exact ih behind

theorem acknowledged {list : List ExecOutcome} (ok : result = some (.ok list)) :
    ∃ later, later.length = rest.length ∧ list = outcomes ++ later ∧
      said = executions sql rest later ++ [⟨.commit, some (.ok ())⟩] := by
  induction course with
  | committed =>
    cases ok
    exact ⟨[], rfl, (List.append_nil _).symm, rfl⟩
  | uncommitted _ failed | failed failed => exact absurd ok (failed list)
  | left => cases ok
  | @executed _ _ _ outcome _ _ _ ih =>
    obtain ⟨later, each, rfl, rfl⟩ := ih ok
    exact ⟨outcome :: later, congrArg Nat.succ each, by simp, rfl⟩

theorem unacknowledged (failed : ∀ list, result ≠ some (.ok list)) : said.countP Exchange.acknowledges = 0 := by
  induction course with
  | committed => exact absurd rfl (failed _)
  | @uncommitted _ reply _ refused =>
    match reply with
    | none => rfl
    | some (.error _) => rfl
    | some (.ok ()) => exact absurd rfl refused
  | left | failed => rfl
  | executed _ ih => exact ih failed

end Course

/-- What is said for one transaction, wherever it ends: all is run and then committed, or nothing is. -/
structure Transaction (sql : String) (batches : List (List Value)) (said : List Exchange) : Prop where
  begun : said.countP Exchange.begins ≤ 1
  /-- A commit is ordered only after the statement was run once with each list of parameters, in order and without
      a fault, and nothing is ordered after it. -/
  commit : ∀ before reply after, said = before ++ ⟨.commit, reply⟩ :: after →
    after = [] ∧ ∃ outcomes, outcomes.length = batches.length ∧
      before = ⟨.startTransaction, some (.ok ())⟩ :: executions sql batches outcomes
  /-- After a run that fails there is a rollback and no commit. -/
  failure : ∀ before text data fault after, said = before ++ ⟨.execute text data, some (.error fault)⟩ :: after →
    ∃ reply, after = [⟨.rollback, reply⟩]

/-- A transaction is begun and takes its course, or it is not begun. -/
theorem course_cases (path : (Dialogue.executeBatch sql batches).Path said result) :
    (∃ reply, said = [⟨.startTransaction, reply⟩] ∧ ∀ outcomes, result ≠ some (.ok outcomes)) ∨
      ∃ later, said = ⟨.startTransaction, some (.ok ())⟩ :: later ∧ Course sql batches [] later result := by
  rcases Dialogue.path_require path with ⟨rfl, rfl⟩ | ⟨fault, rfl, rfl⟩ | ⟨⟨⟩, later, rfl, more⟩
  · exact Or.inl ⟨none, rfl, by simp⟩
  · exact Or.inl ⟨_, rfl, by simp⟩
  · exact Or.inr ⟨later, rfl, course_of_path more⟩

theorem transaction_of_path (path : (Dialogue.executeBatch sql batches).Path said result) :
    Transaction sql batches said := by
  rcases course_cases path with ⟨reply, rfl, -⟩ | ⟨later, rfl, course⟩
  · refine ⟨Nat.le_refl 1, fun before reply' after place => ?_, fun before text data fault after place => ?_⟩
    · cases (eq_of_singleton place).2.1
    · cases (eq_of_singleton place).2.1
  · refine ⟨?_, fun before reply after place => ?_, fun before text data fault after place => ?_⟩
    · rw [List.countP_cons, course.unbegun]
      exact Nat.le_refl 1
    · rcases List.cons_eq_append_iff.mp place with ⟨-, other⟩ | ⟨_, rfl, behind⟩
      · cases other
      · obtain ⟨rfl, outcomes, each, rfl⟩ := course.commit behind
        exact ⟨rfl, outcomes, each, rfl⟩
    · rcases List.cons_eq_append_iff.mp place with ⟨-, other⟩ | ⟨_, -, behind⟩
      · cases other
      · exact course.failure behind

theorem committed_of_path (path : (Dialogue.executeBatch sql batches).Path said (some (.ok outcomes))) :
    outcomes.length = batches.length ∧
      said = ⟨.startTransaction, some (.ok ())⟩ :: executions sql batches outcomes ++ [⟨.commit, some (.ok ())⟩] := by
  rcases course_cases path with ⟨reply, -, failed⟩ | ⟨later, rfl, course⟩
  · exact absurd rfl (failed outcomes)
  · obtain ⟨list, each, rfl, rfl⟩ := course.acknowledged rfl
    exact ⟨each, rfl⟩

theorem unacknowledged_of_path (path : (Dialogue.executeBatch sql batches).Path said result)
    (failed : ∀ outcomes, result ≠ some (.ok outcomes)) : said.countP Exchange.acknowledges = 0 := by
  rcases course_cases path with ⟨reply, rfl, -⟩ | ⟨later, rfl, course⟩
  · rfl
  · exact course.unacknowledged failed

end

/-! ### Other dialogues -/

/-- The order is none of those that work with data. -/
def Order.isPlain : Order → Bool
  | .connection | .ping | .disconnect => true
  | _ => false

namespace Dialogue

section
variable {said : List Exchange} {result : Option (Except Error Unit)}

end

end Dialogue

section
variable {sql : String} {batches : List (List Value)} {said : List Exchange}
  (plain : ∀ x ∈ said, x.order.isPlain = true)
include plain

theorem countP_of_plain {p : Exchange → Bool} (special : ∀ x, x.order.isPlain = true → p x = false) :
    said.countP p = 0 :=
  List.countP_eq_zero.mpr fun x hx => by simp [special x (plain x hx)]

theorem unbegun_of_plain : said.countP Exchange.begins = 0 :=
  countP_of_plain plain fun ⟨o, _⟩ _ => by cases o <;> first | rfl | contradiction

theorem unacknowledged_of_plain : said.countP Exchange.acknowledges = 0 :=
  countP_of_plain plain fun ⟨o, _⟩ _ => by cases o <;> first | rfl | contradiction

/-- Where only plain orders are given there is nothing to commit, and nothing fails. -/
theorem transaction_of_plain : Transaction sql batches said where
  begun := by
    rw [unbegun_of_plain plain]
    exact Nat.zero_le 1
  commit before reply after place := by
    have ordered := plain ⟨.commit, reply⟩ (by simp [place])
    cases ordered
  failure before text data fault after place := by
    have ordered := plain ⟨.execute text data, some (.error fault)⟩ (by simp [place])
    cases ordered

end

end Mysql
end StoreAccess
