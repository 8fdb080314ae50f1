import Recommender.Algorithm.Coercion
import Recommender.Proofs.Component.Resolution

/-! What a parameter makes of a value. A value that a parameter made is taken again as it is, and a
refusal is a mismatch at the path of the parameter or the issue of a reference that stands for no
component.
-/

namespace Recommender.Parameter

variable {registry : Registry} {p : Parameter}

-----------------------------------------------------------------------------------------
-- Values that are accepted
-----------------------------------------------------------------------------------------

/-- A component parameter takes exactly the references that stand for a component of its kind, and
makes them the reference to the full name.
-/
theorem coerceComponent_eq_ok {kind : ComponentKind} {d : Datum} {value : Value}
    : coerceComponent registry p kind d = .ok value
      ↔ ∃ r c,
          d = .reference r
          ∧ registry.resolve r.name (some kind) = .ok c
          ∧ c.kind = kind
          ∧ value = .reference c.reference := by
  cases d with
  | reference r =>
      rw [coerceComponent]
      cases found : registry.resolve r.name (some kind) with
      | error issue => simp [found]
      | ok c =>
          by_cases fits : c.kind = kind
          · simp [found, fits, eq_comm]
          · simp [found, fits, refuse]
  | missing | bool | int | float | text | list | map => simp [coerceComponent, refuse]

/-- A bound lets through exactly the values that are not below it, and as they are. -/
theorem checkBound_eq_ok {kind : ScalarKind} {d : Datum} {value left : Value}
    : p.checkBound kind d value = .ok left
      ↔ value = left ∧ ∀ bound, p.minimum = some bound → isBelow? bound value = some false := by
  rw [checkBound]
  cases p.minimum with
  | none => simp
  | some bound =>
      dsimp only
      cases below : isBelow? bound value with
      | none => simp [below]
      | some isBelow => cases isBelow <;> simp [below, refuse]

/-- What a scalar parameter makes of a value is a scalar, and the parameter makes it of itself, kind
by kind.
-/
theorem coerceScalar_again {kind : ScalarKind} {d : Datum} {value : Value}
    (made : p.coerceScalar kind d = .ok value)
    : p.coerceScalar kind value.toDatum = .ok value ∧ ∀ r, value ≠ .reference r := by
  cases kind with
  | int =>
      rw [coerceScalar] at made
      cases found : coerceInt? d with
      | none => simp [found, refuse] at made
      | some n =>
          simp only [found, Option.elim_some, Except.ok.injEq] at made
          subst made
          exact ⟨rfl, by simp⟩
  | float =>
      rw [coerceScalar] at made
      cases found : coerceDouble? d with
      | none => simp [found, refuse] at made
      | some x =>
          cases x with
          | finite x =>
              simp only [found, Except.ok.injEq] at made
              subst made
              exact ⟨rfl, by simp⟩
          | infinite | nan => simp [found, refuse] at made
  | bool =>
      rw [coerceScalar] at made
      cases found : Schema.bool d with
      | error faults => simp [found, refuse] at made
      | ok b =>
          simp only [found, Except.ok.injEq] at made
          subst made
          exact ⟨rfl, by simp⟩
  | str =>
      cases d with
      | text t =>
          cases made
          exact ⟨rfl, by simp⟩
      | missing | bool | int | float | reference | list | map => simp [coerceScalar, refuse] at made

/-- A scalar parameter takes no reference; of any other value it makes a scalar that its bound lets
through.
-/
theorem coerce_scalar_eq_ok {kind : ScalarKind} (scalar : p.type = .scalar kind) {d : Datum}
    {value : Value}
    : p.coerce registry d = .ok value
      ↔ (∀ r, d ≠ .reference r)
        ∧ p.coerceScalar kind d = .ok value
        ∧ ∀ bound, p.minimum = some bound → isBelow? bound value = some false := by
  cases d with
  | reference r => simp [coerce, scalar, refuse]
  | missing | bool | int | float | text | list | map =>
      simp only [coerce, scalar, ne_eq, reduceCtorEq, not_false_eq_true, implies_true, true_and]
      cases made : p.coerceScalar kind _ with
      | error rejection => simp [Bind.bind, Except.bind]
      | ok coerced =>
          simp only [Bind.bind, Except.bind, checkBound_eq_ok, Except.ok.injEq]
          exact and_congr_right fun same => by rw [same]

theorem coerce_component {kind : ComponentKind} (component : p.type = .component kind) (d : Datum)
    : p.coerce registry d = coerceComponent registry p kind d := by
  simp only [coerce, component]

/-- A parameter takes the values that it made as they are: a full name stands for its component, and
a scalar is not converted again.
-/
theorem coerce_coerced (sound : registry.Sound) {d : Datum} {value : Value}
    (made : p.coerce registry d = .ok value)
    : p.coerce registry value.toDatum = .ok value := by
  cases type : p.type with
  | component kind =>
      rw [coerce_component type] at made ⊢
      obtain ⟨r, c, _, found, fits, rfl⟩ := coerceComponent_eq_ok.mp made
      have named := Registry.resolve_name (sound.registered_of_resolve found) (some kind)
      exact coerceComponent_eq_ok.mpr ⟨c.reference, c, rfl, named, fits, rfl⟩
  | scalar kind =>
      obtain ⟨_, converted, within⟩ := (coerce_scalar_eq_ok type).mp made
      obtain ⟨again, isScalar⟩ := coerceScalar_again converted
      refine (coerce_scalar_eq_ok type).mpr ⟨?_, again, within⟩
      intro r same
      cases value <;> cases same
      exact isScalar r rfl

-----------------------------------------------------------------------------------------
-- Values that are refused
-----------------------------------------------------------------------------------------

/-- A refusal of a parameter: its type has no order with its bound, the value does not fit, or a
reference stands for no component.
-/
inductive Refuses (registry : Registry) (p : Parameter) : Rejection → Prop where
  | incomparable : Refuses registry p .incomparable
  | mismatch (expected : Expectation) (value : Datum) :
      Refuses registry p (.issue (.mismatch p.recordPath expected value))
  | unresolved {kind : ComponentKind} {name : Text} {issue : Issue} :
      p.type = .component kind →
      registry.resolve name (some kind) = .error issue →
      Refuses registry p (.issue issue)

theorem refuses_of_coerceScalar {kind : ScalarKind} {d : Datum} {rejection : Rejection}
    (refused : p.coerceScalar kind d = .error rejection)
    : Refuses registry p rejection := by
  cases kind with
  | int =>
      rw [coerceScalar] at refused
      cases found : coerceInt? d with
      | none =>
          rw [found] at refused
          cases refused
          exact .mismatch _ _
      | some n => simp [found] at refused
  | float =>
      rw [coerceScalar] at refused
      cases found : coerceDouble? d with
      | none =>
          rw [found] at refused
          cases refused
          exact .mismatch _ _
      | some x =>
          cases x with
          | finite x => simp [found] at refused
          | infinite | nan =>
              rw [found] at refused
              cases refused
              exact .mismatch _ _
  | bool =>
      rw [coerceScalar] at refused
      cases found : Schema.bool d with
      | error faults =>
          rw [found] at refused
          cases refused
          exact .mismatch _ _
      | ok b => simp [found] at refused
  | str =>
      cases d with
      | text t => cases refused
      | missing | bool | int | float | reference | list | map =>
          cases refused
          exact .mismatch _ _

/-- Every refusal is of one of these forms, along the steps of a coercion. -/
theorem refuses_of_coerce {d : Datum} {rejection : Rejection}
    (refused : p.coerce registry d = .error rejection)
    : Refuses registry p rejection := by
  cases type : p.type with
  | component kind =>
      rw [coerce_component type] at refused
      cases d with
      | reference r =>
          rw [coerceComponent] at refused
          cases found : registry.resolve r.name (some kind) with
          | error issue =>
              rw [found] at refused
              cases refused
              exact .unresolved type found
          | ok c =>
              simp only [found] at refused
              split at refused
              · cases refused
              · cases refused
                exact .mismatch _ _
      | missing | bool | int | float | text | list | map =>
          cases refused
          exact .mismatch _ _
  | scalar kind =>
      cases d with
      | reference r =>
          simp only [coerce, type] at refused
          cases refused
          exact .mismatch _ _
      | missing | bool | int | float | text | list | map =>
          simp only [coerce, type] at refused
          cases made : p.coerceScalar kind _ with
          | error earlier =>
              rw [made] at refused
              cases refused
              exact refuses_of_coerceScalar made
          | ok coerced =>
              rw [made] at refused
              simp only [Bind.bind, Except.bind, checkBound] at refused
              split at refused
              · cases refused
              · split at refused
                · cases refused
                  exact .incomparable
                · cases refused
                  exact .mismatch _ _
                · cases refused

end Recommender.Parameter
