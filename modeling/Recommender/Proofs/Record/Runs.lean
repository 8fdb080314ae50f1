import Recommender.Proofs.Record.Operations
import Recommender.Proofs.Record.Writes
import Recommender.Proofs.Script.Outcome

/-! Runs of operations on a record, told by the writes that succeed in them. An operation makes its
writes up to the first that is refused; one that fails leaves what the writes before made, and a
script that ends at a fault leaves its assignments before it.
-/

namespace Recommender

namespace Script

/-- A script that is read up to a fault: its assignments are those of the statements before the one
at fault, and there are none if a comment is never closed.
-/
inductive ReadsUpTo (source : Option Text) (root script : Text) (failure : Failure)
    : List Assignment → Prop where
  | comment {opening : OpenComment} :
      strip script = .error opening →
      failureAt source opening.line .openComment opening.beginning = failure →
      ReadsUpTo source root script failure []
  | statement {stripped : Text} {before after : List (Nat × Text)} {line : Nat} {text : Text}
      {made : List Assignment} :
      strip script = .ok stripped →
      numberedStatements stripped = before ++ (line, text) :: after →
      List.Forall₂ (fun s a => assignment source root s.1 s.2 = .ok a) before made →
      assignment source root line text = .error failure →
      ReadsUpTo source root script failure made

/-- Statements are read up to the first that makes no assignment, by list induction. -/
theorem readStatements_upTo {source : Option Text} {root : Text} {numbered : List (Nat × Text)}
    {failure : Failure} (stopped : (readStatements source root numbered).failure = some failure)
    : ∃ before line text after,
        numbered = before ++ (line, text) :: after
        ∧ List.Forall₂ (fun s a => assignment source root s.1 s.2 = .ok a) before
            (readStatements source root numbered).assignments
        ∧ assignment source root line text = .error failure := by
  induction numbered with
  | nil => cases stopped
  | cons first rest ih =>
      obtain ⟨line, text⟩ := first
      rw [readStatements] at stopped ⊢
      cases made : assignment source root line text with
      | error refusal =>
          rw [made] at stopped
          cases stopped
          exact ⟨[], line, text, rest, rfl, .nil, made⟩
      | ok a =>
          rw [made] at stopped
          obtain ⟨before, line', text', after, rfl, assigned, refused⟩ := ih stopped
          exact ⟨(line, text) :: before, line', text', after, rfl, .cons made assigned, refused⟩

theorem readsUpTo_of_read {source : Option Text} {root script : Text} {failure : Failure}
    (stopped : (read source root script).failure = some failure)
    : ReadsUpTo source root script failure (read source root script).assignments := by
  rw [read] at stopped ⊢
  cases stripped : strip script with
  | error opening =>
      rw [stripped] at stopped
      exact .comment stripped (Option.some.inj stopped)
  | ok t =>
      rw [stripped] at stopped
      obtain ⟨before, line, text, after, cut, assigned, refused⟩ := readStatements_upTo stopped
      exact .statement stripped cut assigned refused

end Script

namespace RecordAction

/-- An assignment of a script as a write. -/
def writeOf (made : Assignment) : Write :=
  .set (.text made.path.text) made.value.toDatum

/-- The writes that an action is made of, in order. -/
def writes : RecordAction → List Write
  | .set path value => [.set path value]
  | .setItem path value => [.set path value]
  | .unset path => [.unset path]
  | .deleteItem path => [.unset path]
  | .update assignments => assignments.map fun made => .set made.1 made.2
  | .parse source root script => (Script.read source root script).assignments.map writeOf
  | .freeze => []
  | .copy => []

/-- The record after one action after the other, from the record without assignments on. -/
def after (actions : List RecordAction) : Record :=
  actions.foldl (fun r action => (action.attempt r).record) Record.empty

/-- The writes that succeed when one action after the other is done to a record. -/
def written (r : Record) : List RecordAction → List Write
  | [] => []
  | action :: rest => Write.taken r action.writes ++ written (action.attempt r).record rest

/-- The assignments of a script are made like any row of writes. -/
theorem assignAll_read (r : Record) (assignments : List Assignment)
    : r.assignAll (assignments.map fun a => (a.path, a.value))
      = Write.applyAll r (assignments.map writeOf) := by
  rw [← Record.update_toDatum, ← Write.applyAll_update, List.map_map, List.map_map]
  rfl

/-- The ways in which an action can stop behind the writes that it has made: the next one is
refused, or a script has no more assignments before a fault.
-/
inductive Stops (action : RecordAction) (left : Record) (failure : Failure) (done : List Write)
    : Prop where
  | refused {w : Write} {rest : List Write} :
      action.writes = done ++ w :: rest →
      w.apply left = .error failure →
      Stops action left failure done
  | fault {source : Option Text} {root script : Text} {made : List Assignment} :
      action = .parse source root script →
      done = made.map writeOf →
      Script.ReadsUpTo source root script failure made →
      Stops action left failure done

/-- The fault that ends a script behind its last assignment. No other action has one. -/
def fault? : RecordAction → Option Failure
  | .parse source root script => (Script.read source root script).failure
  | _ => none

/-- An action makes its writes up to the first that is refused; only a freeze does something else,
and it makes none.
-/
theorem attempt_cases (r : Record) (action : RecordAction)
    : (action = .freeze ∧ action.attempt r = ⟨r.freeze, none⟩)
      ∨ (action ≠ .freeze
          ∧ (action.attempt r).record = (Write.applyAll r action.writes).record
          ∧ (action.attempt r).failure
              = (Write.applyAll r action.writes).failure.or action.fault?) := by
  have single (w : Write)
      : (Attempt.ofExcept r (w.apply r)).record = (Write.applyAll r [w]).record
        ∧ (Attempt.ofExcept r (w.apply r)).failure = (Write.applyAll r [w]).failure.or none := by
    rw [Write.applyAll]
    cases w.apply r <;> exact ⟨rfl, rfl⟩
  cases action with
  | set path value => exact .inr ⟨by simp, single (.set path value)⟩
  | setItem path value => exact .inr ⟨by simp, single (.set path value)⟩
  | unset path => exact .inr ⟨by simp, single (.unset path)⟩
  | deleteItem path => exact .inr ⟨by simp, single (.unset path)⟩
  | update assignments =>
      refine .inr ⟨by simp, ?_⟩
      rw [writes, Write.applyAll_update]
      exact ⟨rfl, Option.or_none.symm⟩
  | parse source root script =>
      refine .inr ⟨by simp, ?_⟩
      rw [attempt, Script.applyTo, assignAll_read]
      exact ⟨rfl, rfl⟩
  | freeze => exact .inl ⟨rfl, rfl⟩
  | copy => exact .inr ⟨by simp, rfl, rfl⟩

/-- An action that is done to a record is told of by the writes that it makes. -/
theorem chronicled_attempt {log : List Write} {r : Record} (chronicled : Chronicled log r)
    (action : RecordAction)
    : Chronicled (log ++ Write.taken r action.writes) (action.attempt r).record := by
  rcases attempt_cases r action with ⟨rfl, made⟩ | ⟨_, made, _⟩
  · rw [made]
    simpa [writes, Write.taken] using chronicled.freeze
  · rw [made]
    exact chronicled.applyAll action.writes

/-- A run of actions is told of by the writes that succeed in it, by list induction. -/
theorem chronicled_run {log : List Write} {r : Record} (chronicled : Chronicled log r)
    (actions : List RecordAction)
    : Chronicled (log ++ written r actions)
        (actions.foldl (fun r action => (action.attempt r).record) r) := by
  induction actions generalizing log r with
  | nil => simpa [written] using chronicled
  | cons action rest ih =>
      rw [written, List.foldl_cons, ← List.append_assoc]
      exact ih (chronicled_attempt chronicled action)

/-- A record is frozen after a run if it was before, or if the run freezes it, by list induction. -/
theorem frozen_run (r : Record) (actions : List RecordAction)
    : (actions.foldl (fun r action => (action.attempt r).record) r).frozen = true
      ↔ r.frozen = true ∨ .freeze ∈ actions := by
  induction actions generalizing r with
  | nil => simp
  | cons action rest ih =>
      rw [List.foldl_cons, ih, List.mem_cons]
      rcases attempt_cases r action with ⟨rfl, made⟩ | ⟨other, made, _⟩
      · simp [made, Record.freeze]
      · rw [made, Write.frozen_applyAll]
        simp [Ne.symm other]

/-- An action that fails has made those of its writes that come before the failure, no others. -/
theorem stops_of_failure {r : Record} {action : RecordAction} {failure : Failure}
    (failed : (action.attempt r).failure = some failure)
    : ∃ done,
        Write.applyAll r done = ⟨(action.attempt r).record, none⟩
        ∧ Stops action (action.attempt r).record failure done := by
  rcases attempt_cases r action with ⟨_, made⟩ | ⟨_, left, stopped⟩
  · rw [made] at failed
    cases failed
  rw [stopped] at failed
  rw [left]
  cases refused : (Write.applyAll r action.writes).failure with
  | some refusal =>
      obtain ⟨done, w, rest, cut, made, refusedAt⟩ := Write.applyAll_failure refused
      rw [refused] at failed
      cases failed
      exact ⟨done, made, .refused cut refusedAt⟩
  | none =>
      rw [refused, Option.none_or] at failed
      cases action with
      | parse source root script =>
          refine ⟨_, ?_, .fault rfl rfl (Script.readsUpTo_of_read failed)⟩
          rw [writes] at refused ⊢
          rw [← refused]
      | set | setItem | unset | deleteItem | update | freeze | copy => cases failed

/-- A write that is an action of its own, if it is one, and changes nothing when it fails. -/
def single? : RecordAction → Option Write
  | .set path value => some (.set path value)
  | .setItem path value => some (.set path value)
  | .unset path => some (.unset path)
  | .deleteItem path => some (.unset path)
  | .update _ | .parse _ _ _ | .freeze | .copy => none

theorem attempt_of_single {r : Record} {action : RecordAction} {w : Write}
    (single : action.single? = some w)
    : action.attempt r = Attempt.ofExcept r (w.apply r) := by
  cases action <;> cases single <;> rfl

/-- A single write that fails changes nothing. -/
theorem attempt_failed {r : Record} {action : RecordAction} (single : action.single?.isSome = true)
    (failed : (action.attempt r).failure.isSome = true)
    : (action.attempt r).record = r := by
  obtain ⟨w, isSingle⟩ := Option.isSome_iff_exists.mp single
  rw [attempt_of_single isSingle] at failed ⊢
  cases made : w.apply r with
  | ok next =>
      rw [made] at failed
      cases failed
  | error failure => rfl

/-- A record after any run of actions has distinct valid paths with values that can be assigned, and
tells of the writes that succeeded: its history, its paths, their values and their order are what
those writes left. The record is frozen if the run froze it. An assignment to it succeeds if it is
not frozen and the path and the value are fit. A single write that fails changes nothing, and
another action that fails leaves what its writes before the failure made.
-/
theorem after_chronicled (actions : List RecordAction)
    : (after actions).paths.Nodup
      ∧ (∀ p ∈ (after actions).paths,
          p.text.isPath = true
          ∧ ∃ v, (after actions).get? p = some v ∧ v.toDatum.isAssignable = true)
      ∧ Chronicled (written Record.empty actions) (after actions)
      ∧ (∀ p ∈ (after actions).paths, ∃! i, Write.ArrivesAt (written Record.empty actions) p i)
      ∧ ((after actions).frozen = true ↔ .freeze ∈ actions)
      ∧ (∀ path value,
          (∃ next, (after actions).set path value = .ok next)
          ↔ .freeze ∉ actions
            ∧ (∃ t, path = .text t ∧ t.isPath = true)
            ∧ value.isAssignable = true)
      ∧ (∀ action : RecordAction,
          action.single?.isSome = true
          → (action.attempt (after actions)).failure.isSome = true
          → (action.attempt (after actions)).record = after actions)
      ∧ ∀ (action : RecordAction) failure,
          (action.attempt (after actions)).failure = some failure
          → ∃ done,
              Write.applyAll (after actions) done
                = ⟨(action.attempt (after actions)).record, none⟩
              ∧ Stops action (action.attempt (after actions)).record failure done := by
  have chronicled : Chronicled (written Record.empty actions) (after actions) :=
    chronicled_run Chronicled.empty actions
  have frozen : (after actions).frozen = true ↔ .freeze ∈ actions :=
    (frozen_run Record.empty actions).trans (by simp [Record.empty])
  refine ⟨(after actions).values.distinct, fun p there => ⟨p.valid, ?_⟩, chronicled, ?_, frozen, ?_,
    fun _ => attempt_failed, fun _ _ => stops_of_failure⟩
  · obtain ⟨v, held⟩ := Table.mem_keys.mp there
    exact ⟨v, held, Datum.isAssignable_iff.mpr ⟨v, rfl⟩⟩
  · intro p there
    obtain ⟨i, arrives⟩ := chronicled.arrival p there
    exact ⟨i, arrives, fun j other => other.unique arrives⟩
  · intro path value
    rw [Record.set_accepts, ← frozen, Bool.not_eq_true]

/-- A path that is brought back stands behind those that stayed. -/
example
    : (after [.set (.text "a") (.int 1), .set (.text "b") (.int 2), .deleteItem (.text "a"),
        .set (.text "b") .missing, .set (.text "a") (.int 3)]).paths.map Path.text
      = (["b", "a"] : List Text) := by
  decide

end RecordAction

end Recommender
