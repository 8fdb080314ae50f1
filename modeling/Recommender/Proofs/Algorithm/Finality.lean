import Recommender.Proofs.Algorithm.Accounting
import Recommender.Proofs.Record.Operations

/-! Handing a record over is all or nothing, and final. A record is frozen exactly when an algorithm
comes of it; from then on it stays as it is, and the same algorithm comes of it again.
-/

namespace Recommender.Algorithm

/-- A hand-over changes nothing of a record but whether it is frozen, and freezes it exactly when an
algorithm comes of it, by the ways in which it can end.
-/
theorem handOver_record (registry : Registry) (strict : Bool) (fallback source : Option Text)
    (r : Record)
    : (handOver registry strict fallback source r).record.values = r.values
      ∧ (handOver registry strict fallback source r).record.history = r.history
      ∧ ((handOver registry strict fallback source r).record.frozen = true
        ↔ r.frozen = true
          ∨ ∃ a, (handOver registry strict fallback source r).result.outcome = .ok a) := by
  have ends := handOver_cases registry strict fallback source r
  generalize handOver registry strict fallback source r = handed at ends ⊢
  cases ends with
  | noModule _ => simp [Logged.fail]
  | cutShort _ => simp
  | refused _ _ => simp
  | configured _ _ _ => simp [Record.freeze]

/-- A hand-over that gives an algorithm leaves the frozen record. -/
theorem handOver_record_of_ok {registry : Registry} {strict : Bool} {fallback source : Option Text}
    {r : Record} {a : Algorithm}
    (made : (handOver registry strict fallback source r).result.outcome = .ok a)
    : (handOver registry strict fallback source r).record = r.freeze := by
  have ends := handOver_cases registry strict fallback source r
  generalize handOver registry strict fallback source r = handed at ends made ⊢
  cases ends with
  | noModule _ => cases made
  | cutShort _ => cases made
  | refused _ _ => cases made
  | configured _ _ _ => rfl

/-- Whether a record is frozen does not matter to what comes of it. -/
theorem handOver_freeze (registry : Registry) (strict : Bool) (fallback source : Option Text)
    (r : Record)
    : (handOver registry strict fallback source r.freeze).result
      = (handOver registry strict fallback source r).result := by
  have sameModule : moduleOf registry source r.freeze = moduleOf registry source r := rfl
  have sameName (m : Component) : nameOf r.freeze fallback m = nameOf r fallback m := rfl
  have sameNameIssues : nameIssues r.freeze = nameIssues r := rfl
  have samePaths : unknownPaths r.freeze = unknownPaths r := rfl
  have sameUnknown : unknownIssues strict r.freeze = unknownIssues strict r := rfl
  have sameBelow (above : Path) : r.freeze.below above = r.below above := rfl
  rw [handOver, handOver, sameModule]
  cases moduleOf registry source r with
  | error failure => rfl
  | ok m =>
      simp only [sameName, sameNameIssues, samePaths, sameUnknown, sameBelow]
      generalize Validation.examine .record registry m strict (r.below Path.module).entries
        = findings
      cases findings.failure with
      | some failure => rfl
      | none => cases nameIssues r ++ unknownIssues strict r ++ findings.issues <;> rfl

/-- A hand-over changes no assignment and no history, and freezes a record exactly when an algorithm
comes of it. From then on the record stays in its place as it is, whatever is done to it and to its
copies; every write that is attempted on it is refused, and the same algorithm comes of it again.
-/
theorem handOver_final (registry : Registry) (strict : Bool) (fallback source : Option Text)
    (r : Record)
    : (handOver registry strict fallback source r).record.values = r.values
      ∧ (handOver registry strict fallback source r).record.history = r.history
      ∧ ((handOver registry strict fallback source r).record.frozen = true
        ↔ r.frozen = true
          ∨ ∃ a, (handOver registry strict fallback source r).result.outcome = .ok a)
      ∧ ∀ a,
          (handOver registry strict fallback source r).result.outcome = .ok a
            → ∀ (records : List Record) (place : Nat),
                records[place]? = some (handOver registry strict fallback source r).record
                  → ∀ actions, ∃ left,
                      (RecordAction.run records actions)[place]? = some left
                      ∧ left = (handOver registry strict fallback source r).record
                      ∧ (∀ (action : RecordAction) (path : Datum),
                        action.firstWrite? = some path
                          → (action.attempt left).failure = some (.problem (.frozen path)))
                      ∧ ∃ again,
                          (handOver registry strict fallback source left).result.outcome = .ok again
                          ∧ again.name = a.name
                          ∧ again.module = a.module
                          ∧ again.parameters = a.parameters
                          ∧ again.attributes = a.attributes := by
  obtain ⟨values, history, frozen⟩ := handOver_record registry strict fallback source r
  refine ⟨values, history, frozen, fun a made records place held actions => ?_⟩
  have isFrozen := frozen.mpr (Or.inr ⟨a, made⟩)
  have again : (handOver registry strict fallback source
      (handOver registry strict fallback source r).record).result.outcome = .ok a := by
    rw [handOver_record_of_ok made, handOver_freeze, made]
  exact ⟨_, RecordAction.run_of_frozen held isFrozen actions, rfl,
    fun action => (RecordAction.attempt_of_frozen isFrozen action).2, a, again, rfl, rfl, rfl, rfl⟩

/-- A record that names a module is handed over; a script, an update with a deletion and a change of
a copy later it is as it was.
-/
theorem handOver_final_after_writes
    : let m : Reference := ⟨"M", isComponentName_m⟩
      let registry := Registry.empty.insert (plainModule m)
      let r := Record.ofList [(Path.module, .reference m)]
      (RecordAction.run [(handOver registry true none none r).record]
          [(0, .parse none "rec" "rec.name = 1"), (0, .copy), (1, .unset (.text "module")),
            (0, .update [(.text "name", .bool true)]), (0, .deleteItem (.text "module"))])[0]?
        = some r.freeze := by
  intro m registry r
  obtain ⟨_, _, _, final⟩ := handOver_final registry true none none r
  obtain ⟨left, held, same, _⟩ := final _ rfl [(handOver registry true none none r).record] 0 rfl
    [(0, .parse none "rec" "rec.name = 1"), (0, .copy), (1, .unset (.text "module")),
      (0, .update [(.text "name", .bool true)]), (0, .deleteItem (.text "module"))]
  rw [held, same]
  rfl

end Recommender.Algorithm
