import Recommender.Proofs.Record.Assignments
import Recommender.Script.Reading

/-! Operations on records that are held together. A step works on one of the records and may add a
copy behind them; a frozen record stays as it is through every run of steps, and every write that is
attempted on it is refused.
-/

namespace Recommender

/-- What can be done to a record. A script is parsed into the record; a copy is held on its own. -/
inductive RecordAction where
  | set (path value : Datum)
  | setItem (path value : Datum)
  | unset (path : Datum)
  | deleteItem (path : Datum)
  | update (assignments : List (Datum × Datum))
  | parse (source : Option Text) (root script : Text)
  | freeze
  | copy

/-- The whole result of an operation as an attempt that leaves the record alone when it fails. -/
def Attempt.ofExcept (r : Record) : Except Failure Record → Attempt
  | .ok left => ⟨left, none⟩
  | .error failure => ⟨r, some failure⟩

namespace RecordAction

/-- What an action leaves of a record. -/
def attempt (r : Record) : RecordAction → Attempt
  | .set path value => Attempt.ofExcept r (r.set path value)
  | .setItem path value => Attempt.ofExcept r (r.set path value)
  | .unset path => Attempt.ofExcept r (r.unset path)
  | .deleteItem path => Attempt.ofExcept r (r.unset path)
  | .update assignments => r.update assignments
  | .parse source root script => Script.applyTo r source root script
  | .freeze => ⟨r.freeze, none⟩
  | .copy => ⟨r, none⟩

/-- The records that an action adds to those that are held. -/
def added (r : Record) : RecordAction → List Record
  | .copy => [r.copy]
  | _ => []

/-- The path of the first write that an action attempts. -/
def firstWrite? : RecordAction → Option Datum
  | .set path _ => some path
  | .setItem path _ => some path
  | .unset path => some path
  | .deleteItem path => some path
  | .update assignments => assignments.head?.map Prod.fst
  | .parse source root script =>
    (Script.read source root script).assignments.head?.map fun made => .text made.path.text
  | .freeze => none
  | .copy => none

/-- The records after an action on one of them; there is no action on a record that is not held. -/
def step (records : List Record) (index : Nat) (action : RecordAction) : List Record :=
  match records[index]? with
  | none => records
  | some r => records.set index (action.attempt r).record ++ action.added r

/-- The records after one action after the other. -/
def run (records : List Record) (actions : List (Nat × RecordAction)) : List Record :=
  actions.foldl (fun records action => step records action.1 action.2) records

-----------------------------------------------------------------------------------------
-- Frozen records
-----------------------------------------------------------------------------------------

/-- No action changes a frozen record, and one that attempts a write fails at its first, action by
action.
-/
theorem attempt_of_frozen {r : Record} (frozen : r.frozen = true) (action : RecordAction)
    : (action.attempt r).record = r
      ∧ ∀ path,
          action.firstWrite? = some path
            → (action.attempt r).failure = some (.problem (.frozen path)) := by
  cases action with
  | set path value | setItem path value =>
      simp [attempt, firstWrite?, Record.set, frozen, Attempt.ofExcept]
  | unset path | deleteItem path =>
      simp [attempt, firstWrite?, Record.unset, frozen, Attempt.ofExcept]
  | update assignments =>
      rw [attempt, Record.update_of_frozen frozen]
      cases assignments <;> simp [firstWrite?]
  | parse source root script =>
      rw [attempt, Script.applyTo, Record.assignAll_of_frozen frozen]
      cases made : (Script.read source root script).assignments <;> simp [firstWrite?, made]
  | freeze => simp [attempt, firstWrite?, Record.freeze_of_frozen frozen]
  | copy => simp [attempt, firstWrite?]

/-- A frozen record is held in its place after an action on any record, itself included. -/
theorem step_of_frozen {records : List Record} {place : Nat} {r : Record}
    (held : records[place]? = some r) (frozen : r.frozen = true) (index : Nat)
    (action : RecordAction)
    : (step records index action)[place]? = some r := by
  obtain ⟨inside, _⟩ := List.getElem?_eq_some_iff.mp held
  rw [step]
  cases found : records[index]? with
  | none => exact held
  | some other =>
      dsimp only
      rw [List.getElem?_append_left (by rwa [List.length_set])]
      by_cases same : index = place
      · subst same
        rw [held] at found
        cases found
        rw [List.getElem?_set_self inside, (attempt_of_frozen frozen action).1]
      · rw [List.getElem?_set_ne same, held]

/-- A frozen record is held in its place after every run, by induction on the actions. -/
theorem run_of_frozen {records : List Record} {place : Nat} {r : Record}
    (held : records[place]? = some r) (frozen : r.frozen = true)
    (actions : List (Nat × RecordAction))
    : (run records actions)[place]? = some r := by
  induction actions generalizing records with
  | nil => exact held
  | cons action rest ih => exact ih (step_of_frozen held frozen action.1 action.2)

end RecordAction

end Recommender
