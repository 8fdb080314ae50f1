import Recommender.Proofs.Table
import Recommender.Proofs.Text.Parts
import Recommender.Record

/-! Lists of assignments. A record that is not frozen takes them as a whole and remembers all of
them; a frozen one stops at the first.
-/

namespace Recommender.Record

/-- A record that is not frozen takes all assignments, by list induction. -/
theorem assignAll_of_unfrozen {r : Record} (unfrozen : r.frozen = false)
    (assignments : List (Path × Value))
    : r.assignAll assignments
      = ⟨⟨r.values.putAll assignments, r.history ++ assignments, false⟩, none⟩ := by
  induction assignments generalizing r with
  | nil => simp [assignAll, Table.putAll, ← unfrozen]
  | cons assignment rest ih =>
      have next : (r.push assignment.1 assignment.2).frozen = false := unfrozen
      rw [assignAll, assign, unfrozen]
      simp only [Bool.false_eq_true, if_false]
      rw [ih next]
      simp [push, Table.putAll]

/-- A list of assignments gives a record with the table of the list and the list as history, by
list induction.
-/
theorem ofList_eq (assignments : List (Path × Value))
    : ofList assignments = ⟨Table.ofList assignments, assignments, false⟩ := by
  have fromRecord (r : Record)
      : assignments.foldl (fun r assignment => r.push assignment.1 assignment.2) r
        = ⟨r.values.putAll assignments, r.history ++ assignments, r.frozen⟩ := by
    induction assignments generalizing r with
    | nil => simp [Table.putAll]
    | cons assignment rest ih =>
        rw [List.foldl_cons, ih]
        simp [push, Table.putAll]
  exact fromRecord empty

/-- Making assignments in the record without any gives the record of the assignments. -/
theorem assignAll_empty (assignments : List (Path × Value))
    : empty.assignAll assignments = ⟨ofList assignments, none⟩ := by
  rw [assignAll_of_unfrozen rfl, ofList_eq]
  rfl

/-- A value passes every check of an assignment as it is, case by case. -/
theorem assignable_toDatum (path : Path) (v : Value) : assignable path v.toDatum = .ok v := by
  cases v <;> rfl

/-- Assigning a value given from outside at a path given from outside is assigning the value. -/
theorem set_toDatum (r : Record) (path : Path) (v : Value)
    : r.set (.text path.text) v.toDatum = r.assign path v := by
  rw [set, assign]
  split
  · rfl
  · rw [pathOf?, Path.ofText?_text]
    dsimp only
    rw [assignable_toDatum]
    rfl

/-- Assignments given from outside are made like those that are not, by list induction. -/
theorem update_toDatum (r : Record) (assignments : List (Path × Value))
    : r.update (assignments.map fun made => (.text made.1.text, made.2.toDatum))
      = r.assignAll assignments := by
  induction assignments generalizing r with
  | nil => rfl
  | cons first rest ih =>
      rw [List.map_cons, update, assignAll, set_toDatum]
      cases r.assign first.1 first.2 with
      | ok left => exact ih left
      | error failure => rfl

/-- A frozen record takes no assignment of a list, and refuses the first. -/
theorem assignAll_of_frozen {r : Record} (frozen : r.frozen = true)
    (assignments : List (Path × Value))
    : r.assignAll assignments
      = ⟨r, assignments.head?.map fun first => .problem (.frozen (.text first.1.text))⟩ := by
  cases assignments with
  | nil => rfl
  | cons first rest => simp [assignAll, assign, frozen]

/-- A frozen record takes no datum of a list, and refuses the first. -/
theorem update_of_frozen {r : Record} (frozen : r.frozen = true)
    (assignments : List (Datum × Datum))
    : r.update assignments
      = ⟨r, assignments.head?.map fun first => .problem (.frozen first.1)⟩ := by
  cases assignments with
  | nil => rfl
  | cons first rest => simp [update, set, frozen]

theorem freeze_of_frozen {r : Record} (frozen : r.frozen = true) : r.freeze = r := by
  cases r
  cases frozen
  rfl

-----------------------------------------------------------------------------------------
-- Reordered assignments
-----------------------------------------------------------------------------------------

/-- Two lists of assignments have the same assignments to each single path in the same order; those
to different paths may stand in any order.
-/
def Reorders (assignments others : List (Path × Value)) : Prop :=
  ∀ p, others.filter (·.1 = p) = assignments.filter (·.1 = p)

/-- At each path a record has the last value that was assigned there. -/
theorem get?_ofList (assignments : List (Path × Value)) (p : Path)
    : (ofList assignments).get? p
      = (assignments.filter (·.1 = p)).getLast?.map Prod.snd := by
  rw [get?, ofList_eq, Table.find?_ofList]

/-- Reordered assignments give records with the same values. -/
theorem Reorders.get?_ofList {assignments others : List (Path × Value)}
    (reorders : Reorders assignments others) (p : Path)
    : (ofList others).get? p = (ofList assignments).get? p := by
  rw [Record.get?_ofList, Record.get?_ofList, reorders p]

end Recommender.Record
