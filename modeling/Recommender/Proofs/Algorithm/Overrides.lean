import Recommender.Algorithm.Validation

/-! Overrides of a module examined one after the other. Unless the examination is cut short, the
issues are those of the single overrides, in order, and so are the values that are kept.
-/

namespace Recommender.Validation

variable {κ β : Type} (view : OverrideView κ β) (registry : Registry) (module : Component)
  (strict : Bool)

/-- What is wrong with an override: the module does not declare its path, or the parameter refuses
its value.
-/
def overrideIssue? (override : κ × β) : Option Issue :=
  match module.parameter? (view.path override.1) with
  | none =>
    if strict then
      some (.unknownPath ("module." ++ view.path override.1) (some module.name))
    else none
  | some p =>
    match p.coerce registry (view.datum override.2) with
    | .error (.issue single) => some single
    | _ => none

/-- The value that is kept for an override: the one its parameter makes of it, or the given one
where the module declares no parameter and validation is lenient.
-/
def keptValue? (override : κ × β) : Option β :=
  match module.parameter? (view.path override.1) with
  | none => if strict then none else some override.2
  | some p => (p.coerce registry (view.datum override.2)).toOption.map view.value

/-- An override whose value cannot be compared with the bound of its parameter. -/
def Incomparable (override : κ × β) : Prop :=
  ∃ p,
    module.parameter? (view.path override.1) = some p
    ∧ p.coerce registry (view.datum override.2) = .error .incomparable

variable {view registry module strict}

/-- An override has an issue exactly when its path or its value is refused. -/
theorem overrideIssue?_isSome {override : κ × β}
    : (overrideIssue? view registry module strict override).isSome = true
      ↔ (strict = true ∧ module.parameter? (view.path override.1) = none)
        ∨ ∃ p single,
            module.parameter? (view.path override.1) = some p
            ∧ p.coerce registry (view.datum override.2) = .error (.issue single) := by
  cases declared : module.parameter? (view.path override.1) with
  | none => cases strict <;> simp [overrideIssue?, declared]
  | some p =>
      cases coerced : p.coerce registry (view.datum override.2) with
      | ok value => simp [overrideIssue?, declared, coerced]
      | error rejection => cases rejection <;> simp [overrideIssue?, declared, coerced]

/-- An override with neither an issue nor an incomparable value has a value to keep. -/
theorem keptValue?_isSome {override : κ × β}
    (comparable : ¬ Incomparable view registry module override)
    (accepted : overrideIssue? view registry module strict override = none)
    : (keptValue? view registry module strict override).isSome = true := by
  cases declared : module.parameter? (view.path override.1) with
  | none =>
      cases strict with
      | true => simp [overrideIssue?, declared] at accepted
      | false => simp [keptValue?, declared]
  | some p =>
      cases coerced : p.coerce registry (view.datum override.2) with
      | ok value => simp [keptValue?, declared, coerced, Except.toOption]
      | error rejection =>
          cases rejection with
          | issue single => simp [overrideIssue?, declared, coerced] at accepted
          | incomparable => exact absurd ⟨p, declared, coerced⟩ comparable

/-- A value that cannot be compared cuts the examination short. -/
theorem examine_of_incomparable {override : κ × β}
    (incomparable : Incomparable view registry module override) (rest : List (κ × β))
    : (examine view registry module strict (override :: rest)).failure = some .incomparable := by
  obtain ⟨p, declared, coerced⟩ := incomparable
  simp [examine, declared, coerced]

/-- Any other override adds its own issue or value in front of those of the rest. -/
theorem examine_of_comparable (strict : Bool) {override : κ × β}
    (comparable : ¬ Incomparable view registry module override) (rest : List (κ × β))
    : (examine view registry module strict (override :: rest)).issues
        = (overrideIssue? view registry module strict override).toList
          ++ (examine view registry module strict rest).issues
      ∧ (examine view registry module strict (override :: rest)).kept
        = ((keptValue? view registry module strict override).map (override.1, ·)).toList
          ++ (examine view registry module strict rest).kept
      ∧ (examine view registry module strict (override :: rest)).failure
        = (examine view registry module strict rest).failure := by
  cases declared : module.parameter? (view.path override.1) with
  | none =>
      cases strict with
      | true => simp [examine, overrideIssue?, keptValue?, declared]
      | false => simp [examine, overrideIssue?, keptValue?, declared]
  | some p =>
      cases coerced : p.coerce registry (view.datum override.2) with
      | ok value => simp [examine, overrideIssue?, keptValue?, declared, coerced, Except.toOption]
      | error rejection =>
          cases rejection with
          | issue single =>
              simp [examine, overrideIssue?, keptValue?, declared, coerced, Except.toOption]
          | incomparable => exact absurd ⟨p, declared, coerced⟩ comparable

/-- Nothing but an incomparable value cuts an examination short, by list induction. -/
theorem examine_failure (view : OverrideView κ β) (registry : Registry) (module : Component)
    (strict : Bool) (overrides : List (κ × β))
    : (examine view registry module strict overrides).failure = none
      ∨ (examine view registry module strict overrides).failure = some .incomparable := by
  induction overrides with
  | nil => exact Or.inl rfl
  | cons override rest ih =>
      by_cases incomparable : Incomparable view registry module override
      · exact Or.inr (examine_of_incomparable incomparable rest)
      · rw [(examine_of_comparable strict incomparable rest).2.2]
        exact ih

/-- Findings that were not cut short gather the issues and the values of all overrides, by list
induction.
-/
theorem examine_of_complete {overrides : List (κ × β)}
    (complete : (examine view registry module strict overrides).failure = none)
    : (∀ override ∈ overrides, ¬ Incomparable view registry module override)
      ∧ (examine view registry module strict overrides).issues
        = overrides.filterMap (overrideIssue? view registry module strict)
      ∧ (examine view registry module strict overrides).kept
        = overrides.filterMap fun override =>
            (keptValue? view registry module strict override).map (override.1, ·) := by
  induction overrides with
  | nil => exact ⟨by simp, rfl, rfl⟩
  | cons override rest ih =>
      have comparable : ¬ Incomparable view registry module override := by
        intro incomparable
        rw [examine_of_incomparable incomparable] at complete
        cases complete
      obtain ⟨issues, kept, failure⟩ := examine_of_comparable strict comparable rest
      obtain ⟨others, restIssues, restKept⟩ := ih (failure ▸ complete)
      refine ⟨?_, ?_, ?_⟩
      · intro o member
        rcases List.mem_cons.mp member with rfl | later
        · exact comparable
        · exact others o later
      · rw [issues, restIssues, List.filterMap_cons]
        cases overrideIssue? view registry module strict override <;> rfl
      · rw [kept, restKept, List.filterMap_cons]
        cases keptValue? view registry module strict override <;> rfl

/-- Where no override has an issue, all keys are kept in order, by list induction. -/
theorem keys_of_accepted {overrides : List (κ × β)}
    (comparable : ∀ override ∈ overrides, ¬ Incomparable view registry module override)
    (accepted : ∀ override ∈ overrides,
      overrideIssue? view registry module strict override = none)
    : (overrides.filterMap fun override =>
          (keptValue? view registry module strict override).map (override.1, ·)).map Prod.fst
      = overrides.map Prod.fst := by
  induction overrides with
  | nil => rfl
  | cons override rest ih =>
      have kept := keptValue?_isSome (comparable override List.mem_cons_self)
        (accepted override List.mem_cons_self)
      obtain ⟨value, same⟩ := Option.isSome_iff_exists.mp kept
      rw [List.filterMap_cons, same, Option.map_some, List.map_cons, List.map_cons,
        ih (fun o member => comparable o (List.mem_cons_of_mem _ member))
          (fun o member => accepted o (List.mem_cons_of_mem _ member))]

-----------------------------------------------------------------------------------------
-- Accepted overrides
-----------------------------------------------------------------------------------------

/-- A value is kept for an override that no parameter stands for where validation is lenient, and
for one that its parameter makes a value of.
-/
theorem keptValue?_eq_some {override : κ × β} {value : β}
    : keptValue? view registry module strict override = some value
      ↔ (module.parameter? (view.path override.1) = none ∧ strict = false ∧ override.2 = value)
        ∨ ∃ p coerced,
            module.parameter? (view.path override.1) = some p
            ∧ p.coerce registry (view.datum override.2) = .ok coerced
            ∧ view.value coerced = value := by
  cases declared : module.parameter? (view.path override.1) with
  | none => cases strict <;> simp [keptValue?, declared]
  | some p =>
      cases coerced : p.coerce registry (view.datum override.2) <;>
        simp [keptValue?, declared, coerced, Except.toOption]

/-- An override for which a value is kept has no issue, and its value can be compared. -/
theorem accepted_of_keptValue? {override : κ × β}
    (kept : (keptValue? view registry module strict override).isSome = true)
    : ¬ Incomparable view registry module override
      ∧ overrideIssue? view registry module strict override = none := by
  obtain ⟨value, kept⟩ := Option.isSome_iff_exists.mp kept
  rcases keptValue?_eq_some.mp kept with ⟨undeclared, lenient, _⟩ | ⟨p, coerced, declared, made, _⟩
  · refine ⟨?_, by simp [overrideIssue?, undeclared, lenient]⟩
    rintro ⟨p, declared, _⟩
    rw [undeclared] at declared
    cases declared
  · refine ⟨?_, by simp [overrideIssue?, declared, made]⟩
    rintro ⟨q, declared', stuck⟩
    rw [declared] at declared'
    cases declared'
    rw [made] at stuck
    cases stuck

/-- An examination is complete exactly when all values can be compared, by list induction. -/
theorem examine_failure_eq_none {overrides : List (κ × β)}
    : (examine view registry module strict overrides).failure = none
      ↔ ∀ override ∈ overrides, ¬ Incomparable view registry module override := by
  refine ⟨fun complete => (examine_of_complete complete).1, fun comparable => ?_⟩
  induction overrides with
  | nil => rfl
  | cons override rest ih =>
      obtain ⟨first, others⟩ := List.forall_mem_cons.mp comparable
      rw [(examine_of_comparable strict first rest).2.2]
      exact ih others

/-- All overrides can be compared and none has an issue exactly when a value is kept for each. -/
theorem accepted_iff {overrides : List (κ × β)}
    : (∀ override ∈ overrides, ¬ Incomparable view registry module override)
        ∧ overrides.filterMap (overrideIssue? view registry module strict) = []
      ↔ ∀ override ∈ overrides,
          (keptValue? view registry module strict override).isSome = true := by
  rw [List.filterMap_eq_nil_iff]
  constructor
  · rintro ⟨comparable, clear⟩ override member
    exact keptValue?_isSome (comparable override member) (clear override member)
  · intro kept
    exact ⟨fun override member => (accepted_of_keptValue? (kept override member)).1,
      fun override member => (accepted_of_keptValue? (kept override member)).2⟩

/-- Only undeclared paths are worth a notice, by list induction. -/
theorem examine_notices_of_declared {overrides : List (κ × β)}
    (declared : ∀ override ∈ overrides, (module.parameter? (view.path override.1)).isSome = true)
    : (examine view registry module strict overrides).notices = [] := by
  induction overrides with
  | nil => rfl
  | cons override rest ih =>
      obtain ⟨first, others⟩ := List.forall_mem_cons.mp declared
      obtain ⟨p, found⟩ := Option.isSome_iff_exists.mp first
      rw [examine]
      simp only [found]
      split
      · exact ih others
      · exact ih others
      · rfl

end Recommender.Validation
