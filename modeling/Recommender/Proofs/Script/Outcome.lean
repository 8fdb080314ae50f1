import Mathlib.Data.List.TakeDrop
import Mathlib.Data.List.TakeWhile
import Recommender.Proofs.Record.Assignments
import Recommender.Script.Reading

/-! What a script comes to: the paths and values that it assigns, in order, or nothing if it has a
fault. Sources and line numbers matter to faults alone.
-/

namespace Recommender

/-- The paths and values of a script that was read without a fault. -/
def Reading.pairs? (r : Reading) : Option (List (Path × Value)) :=
  match r.failure with
  | none => some (r.assignments.map fun a => (a.path, a.value))
  | some _ => none

/-- A reading comes to assignments exactly when it has made them and no fault. -/
theorem Reading.pairs?_eq_some {r : Reading} {pairs : List (Path × Value)}
    : r.pairs? = some pairs
      ↔ ∃ made, r = ⟨made, none⟩ ∧ made.map (fun a => (a.path, a.value)) = pairs := by
  obtain ⟨made, failure⟩ := r
  cases failure <;> simp [Reading.pairs?]

namespace Script

/-- The path and the value that a statement assigns. -/
def pairOf? (root statement : Text) : Option (Path × Value) := do
  let (target, right) ← sides? statement
  let below ← Text.dropLead? (root ++ ".") target.trim
  let path ← Path.ofText? below
  let v ← (value right).toOption
  return (path, v)

/-- The statements of a text without comments, line by line. -/
def statementsOf (t : Text) : List Text :=
  t.lines.flatMap statements

theorem toOption_map {ε α β : Type} (f : α → β) (x : Except ε α)
    : (f <$> x).toOption = x.toOption.map f := by
  cases x <;> rfl

theorem toOption_eq_some {ε α : Type} {x : Except ε α} {a : α}
    : x.toOption = some a ↔ x = .ok a := by
  cases x <;> simp [Except.toOption]

/-- The first equals sign of a statement parts its sides. -/
theorem sides?_append {left : Text} (nonempty : left ≠ [])
    (before : ∀ c ∈ left, c ≠ CodePoint.equals) (right : Text)
    : sides? (left ++ CodePoint.equals :: right) = some (left, right) := by
  have before' : ∀ c ∈ left, decide (c ≠ CodePoint.equals) = true :=
    fun c member => decide_eq_true (before c member)
  have cut : (left ++ CodePoint.equals :: right).span (· ≠ CodePoint.equals)
      = (left, CodePoint.equals :: right) := by
    rw [List.span_eq_takeWhile_dropWhile, List.takeWhile_append_of_pos before',
      List.dropWhile_append_of_pos before']
    simp
  rw [sides?, cut]
  split
  · next empty => exact absurd (Prod.mk.inj empty).1 nonempty
  · next empty => cases empty
  · next same =>
      cases same
      rfl

/-- A statement makes an assignment exactly when it assigns a value at a path. -/
theorem assignment_pairOf? (source : Option Text) (root : Text) (line : Nat) (statement : Text)
    : (assignment source root line statement).toOption.map (fun a => (a.path, a.value))
      = pairOf? root statement := by
  unfold assignment pairOf?
  cases sides? statement with
  | none => rfl
  | some sides =>
      dsimp only [Option.bind_eq_bind, Option.bind_some]
      cases Text.dropLead? (root ++ ".") sides.1.trim with
      | none => rfl
      | some below =>
          dsimp only [Option.bind_some]
          cases Path.ofText? below with
          | none => rfl
          | some path =>
              dsimp only [Option.bind_some]
              cases value sides.2 <;> rfl

/-- Statements are read without a fault exactly when each of them assigns a value, by list
induction.
-/
theorem readStatements_pairs? (source : Option Text) (root : Text) (numbered : List (Nat × Text))
    : (readStatements source root numbered).pairs?
      = (numbered.map Prod.snd).mapM (pairOf? root) := by
  induction numbered with
  | nil => rfl
  | cons first rest ih =>
      obtain ⟨line, statement⟩ := first
      have same := assignment_pairOf? source root line statement
      rw [readStatements, List.map_cons, List.mapM_cons, ← same, ← ih]
      cases assignment source root line statement with
      | error failure => rfl
      | ok made =>
          simp only [Except.toOption, Option.map_some, Reading.pairs?]
          cases (readStatements source root rest).failure <;> rfl

theorem numberedStatements_map (t : Text)
    : (numberedStatements t).map Prod.snd = statementsOf t := by
  have texts : (t.lines.zipIdx 1).map Prod.fst = t.lines := List.zipIdx_map_fst 1 t.lines
  rw [statementsOf, ← texts, List.flatMap_map, numberedStatements, List.map_flatMap]
  simp [Function.comp_def]

/-- A script is read without a fault exactly when its comments are closed and each of its statements
assigns a value.
-/
theorem read_pairs? (source : Option Text) (root t : Text)
    : (read source root t).pairs?
      = (strip t).toOption.bind fun stripped => (statementsOf stripped).mapM (pairOf? root) := by
  rw [read]
  cases strip t with
  | error opening => rfl
  | ok stripped =>
      dsimp only [Except.toOption, Option.bind_some]
      rw [readStatements_pairs?, numberedStatements_map]

/-- A script applied to a record that is not frozen adds what it comes to. -/
theorem applyTo_toExcept {r : Record} (unfrozen : r.frozen = false) (source : Option Text)
    (root t : Text)
    : (applyTo r source root t).toExcept.toOption
      = (read source root t).pairs?.map fun pairs =>
          ⟨r.values.putAll pairs, r.history ++ pairs, false⟩ := by
  rw [applyTo, Record.assignAll_of_unfrozen unfrozen, Reading.pairs?]
  cases (read source root t).failure <;> simp [Attempt.toExcept, Except.toOption]

/-- A script gives a record exactly when it is read without a fault. -/
theorem toRecord_eq_ok {source : Option Text} {root t : Text} {r : Record}
    : toRecord source root t = .ok r
      ↔ ∃ made, (read source root t).pairs? = some made ∧ Record.ofList made = r := by
  rw [toRecord, ← toOption_eq_some, applyTo_toExcept rfl, Option.map_eq_some_iff]
  simp only [Record.ofList_eq]
  rfl

-----------------------------------------------------------------------------------------
-- Failures
-----------------------------------------------------------------------------------------

/-- The failures of scripts: a fault in the script, or an integer with too many digits. -/
inductive IsScriptFailure : Failure → Prop where
  | fault (fault : ScriptFault) (source : Option Text) (line : Int) (text : Text) :
      IsScriptFailure (.problem (.script fault source line text))
  | tooManyDigits {count : Nat} (many : maxIntegerDigits < count) :
      IsScriptFailure (.tooManyDigits count)

/-- The failures of the scripts of one source. -/
inductive IsFailureOf (source : Option Text) : Failure → Prop where
  | fault (line : Int) (fault : ScriptFault) (text : Text) :
      IsFailureOf source (failureAt source line fault text)
  | tooManyDigits {count : Nat} (many : maxIntegerDigits < count) :
      IsFailureOf source (.tooManyDigits count)

/-- The failures of the statements on one line of a source. -/
inductive IsFailureAt (source : Option Text) (line : Nat) : Failure → Prop where
  | fault {fault : ScriptFault} (closed : fault ≠ .openComment) (text : Text) :
      IsFailureAt source line (failureAt source line fault text)
  | tooManyDigits {count : Nat} (many : maxIntegerDigits < count) :
      IsFailureAt source line (.tooManyDigits count)

theorem IsFailureOf.isScriptFailure {source : Option Text} {failure : Failure}
    (isFailure : IsFailureOf source failure)
    : IsScriptFailure failure := by
  cases isFailure with
  | fault line fault text => exact .fault fault source line text
  | tooManyDigits many => exact .tooManyDigits many

theorem IsFailureAt.isFailureOf {source : Option Text} {line : Nat} {failure : Failure}
    (isFailure : IsFailureAt source line failure)
    : IsFailureOf source failure := by
  cases isFailure with
  | fault _ text => exact .fault line _ text
  | tooManyDigits many => exact .tooManyDigits many

/-- Only the digits of an integer are too many. -/
theorem tooManyDigits_of_trimmedValue {t : Text} {count : Nat}
    (refused : trimmedValue t = .error (.tooManyDigits count))
    : ∃ number,
        number? t = some number
        ∧ number.isInt = true
        ∧ number.whole.length = count
        ∧ maxIntegerDigits < count := by
  unfold trimmedValue at refused
  repeat' split at refused
  all_goals cases refused
  -- only an integer is left, and its digits were counted
  next number read isInt many => exact ⟨number, read, isInt, rfl, Nat.lt_of_not_le many⟩

/-- No value is refused for a comment. -/
theorem closed_of_trimmedValue {t text : Text} {fault : ScriptFault}
    (refused : trimmedValue t = .error (.script fault text))
    : fault ≠ .openComment := by
  unfold trimmedValue at refused
  repeat' split at refused
  all_goals cases refused
  all_goals simp

theorem valueFailure_of_value {t : Text} {fault : ValueFault} (refused : value t = .error fault)
    (source : Option Text) (line : Nat)
    : IsFailureAt source line (valueFailure source line fault) := by
  cases fault with
  | script fault text => exact .fault (closed_of_trimmedValue refused) text
  | tooManyDigits count =>
      obtain ⟨_, _, _, _, many⟩ := tooManyDigits_of_trimmedValue refused
      exact .tooManyDigits many

theorem assignment_failure {source : Option Text} {root statement : Text} {line : Nat}
    {failure : Failure} (refused : assignment source root line statement = .error failure)
    : IsFailureAt source line failure := by
  unfold assignment at refused
  dsimp only at refused
  split at refused
  · cases refused
    exact .fault (by simp) _
  · split at refused
    · cases refused
      exact .fault (by simp) _
    · split at refused
      · cases refused
        exact .fault (by simp) _
      · split at refused
        · cases refused
        · next wrong =>
            cases refused
            exact valueFailure_of_value wrong _ _

/-- An assignment has the line of its statement. -/
theorem line_of_assignment {source : Option Text} {root statement : Text} {line : Nat}
    {made : Assignment} (accepted : assignment source root line statement = .ok made)
    : made.line = line := by
  unfold assignment at accepted
  dsimp only at accepted
  repeat' split at accepted
  all_goals cases accepted
  rfl

/-- Statements are read up to a fault of a script, by list induction. -/
theorem readStatements_failure {source : Option Text} {root : Text}
    {numbered : List (Nat × Text)} {failure : Failure}
    (stopped : (readStatements source root numbered).failure = some failure)
    : IsFailureOf source failure := by
  induction numbered with
  | nil => cases stopped
  | cons first rest ih =>
      rw [readStatements] at stopped
      split at stopped
      · next refused =>
          cases stopped
          exact (assignment_failure refused).isFailureOf
      · exact ih stopped

/-- A script that gives no record fails with the fault that stopped its reading. -/
theorem toRecord_eq_error {source : Option Text} {root t : Text} {failure : Failure}
    : toRecord source root t = .error failure ↔ (read source root t).failure = some failure := by
  simp only [toRecord, applyTo, Record.assignAll_empty, Attempt.toExcept, Option.none_or]
  cases (read source root t).failure <;> simp

theorem isFailureOf_of_toRecord {source : Option Text} {root t : Text} {failure : Failure}
    (failed : toRecord source root t = .error failure)
    : IsFailureOf source failure := by
  have stopped := toRecord_eq_error.mp failed
  rw [read] at stopped
  split at stopped
  · cases stopped
    exact .fault _ _ _
  · exact readStatements_failure stopped

/-- A script that gives no record fails as scripts do. -/
theorem toRecord_failure {source : Option Text} {root t : Text} {failure : Failure}
    (failed : toRecord source root t = .error failure)
    : IsScriptFailure failure :=
  (isFailureOf_of_toRecord failed).isScriptFailure

end Script
end Recommender
