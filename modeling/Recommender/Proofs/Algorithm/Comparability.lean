import Mathlib.Data.List.Nodup
import Recommender.Component.Schema
import Recommender.Proofs.Algorithm.Coercion
import Recommender.Proofs.Algorithm.Overrides
import Recommender.Proofs.Text.Parts

/-! Values that cannot be compared with the bound of their parameter. Only a text for a text
parameter with a bound is one. Without such an override validation keeps the values or reports all
issues, and nothing else comes of it.
-/

namespace Recommender

namespace Parameter

variable {registry : Registry} {p : Parameter}

/-- A value that can be compared with bounds. -/
def HasOrder (value : Value) : Prop :=
  ∃ isBelow : Double → Bool, ∀ bound, isBelow? bound value = some (isBelow bound)

/-- A scalar parameter refuses a value with an issue or makes one that can be compared, kind by
kind, unless it takes texts and is given a text.
-/
theorem coerceScalar_hasOrder (p : Parameter) {kind : ScalarKind} {d : Datum}
    (other : ¬ (kind = .str ∧ ∃ t, d = .text t))
    : (∃ issue, p.coerceScalar kind d = .error (.issue issue))
      ∨ ∃ value, p.coerceScalar kind d = .ok value ∧ HasOrder value := by
  cases kind with
  | int =>
      rw [coerceScalar]
      cases coerceInt? d with
      | none => exact .inl ⟨_, rfl⟩
      | some n => exact .inr ⟨_, rfl, _, fun _ => rfl⟩
  | float =>
      rw [coerceScalar]
      cases coerceDouble? d with
      | none => exact .inl ⟨_, rfl⟩
      | some x =>
          cases x with
          | finite x => exact .inr ⟨_, rfl, _, fun _ => rfl⟩
          | infinite | nan => exact .inl ⟨_, rfl⟩
  | bool =>
      rw [coerceScalar]
      cases Schema.bool d with
      | error faults => exact .inl ⟨_, rfl⟩
      | ok b => exact .inr ⟨_, rfl, _, fun _ => rfl⟩
  | str =>
      cases d with
      | text t => exact absurd ⟨rfl, t, rfl⟩ other
      | missing | bool | int | float | reference | list | map => exact .inl ⟨_, rfl⟩

/-- The check of a bound is at a loss only with a value that has no order. -/
theorem checkBound_of_hasOrder {kind : ScalarKind} {d : Datum} {value : Value}
    (order : HasOrder value)
    : p.checkBound kind d value ≠ .error .incomparable := by
  obtain ⟨isBelow, compared⟩ := order
  rw [checkBound]
  cases p.minimum with
  | none => simp
  | some bound =>
      dsimp only
      rw [compared]
      cases isBelow bound <;> simp [refuse]

theorem checkBound_text {kind : ScalarKind} {d : Datum} {t : Text}
    : p.checkBound kind d (.text t) = .error .incomparable ↔ p.minimum.isSome = true := by
  rw [checkBound]
  cases p.minimum <;> simp [isBelow?]

theorem coerceComponent_ne_incomparable {kind : ComponentKind} {d : Datum}
    : coerceComponent registry p kind d ≠ .error .incomparable := by
  cases d with
  | reference r =>
      rw [coerceComponent]
      cases registry.resolve r.name (some kind) with
      | error issue => simp
      | ok c =>
          dsimp only
          split <;> simp [refuse]
  | missing | bool | int | float | text | list | map => simp [coerceComponent, refuse]

/-- A parameter is at a loss with a value exactly if it takes texts, has a bound and is given a
text.
-/
theorem coerce_eq_incomparable {d : Datum}
    : p.coerce registry d = .error .incomparable
      ↔ p.type = .scalar .str ∧ p.minimum.isSome = true ∧ ∃ t, d = .text t := by
  cases type : p.type with
  | component kind => simp [coerce_component type, coerceComponent_ne_incomparable]
  | scalar kind =>
      by_cases given : kind = .str ∧ ∃ t, d = .text t
      · obtain ⟨rfl, t, rfl⟩ := given
        have checked : p.coerce registry (.text t) = p.checkBound .str (.text t) (.text t) := by
          simp only [coerce, type]
          rfl
        rw [checked, checkBound_text]
        simp
      · have other : ¬ (ParameterType.scalar kind = .scalar .str ∧ p.minimum.isSome = true
            ∧ ∃ t, d = .text t) :=
          fun loss => given ⟨ParameterType.scalar.inj loss.1, loss.2.2⟩
        rw [iff_false_right other]
        cases d with
        | reference r => simp [coerce, type, refuse]
        | missing | bool | int | float | text | list | map =>
            simp only [coerce, type]
            rcases p.coerceScalar_hasOrder given with ⟨issue, refused⟩ | ⟨value, made, order⟩
            · rw [refused]
              simp [Bind.bind, Except.bind]
            · rw [made]
              exact checkBound_of_hasOrder order

end Parameter

-----------------------------------------------------------------------------------------
-- Overrides
-----------------------------------------------------------------------------------------

/-- The parameter at a path is the one declared there, for no two are. -/
theorem Component.parameter?_eq_some {c : Component} {path : Path} {p : Parameter}
    : c.parameter? path.text = some p ↔ p ∈ c.parameters ∧ p.path = path := by
  constructor
  · intro found
    refine ⟨List.mem_of_find?_eq_some found, Path.eq_of_text ?_⟩
    simpa using List.find?_some found
  · rintro ⟨declared, rfl⟩
    cases found : c.parameter? p.path.text with
    | none =>
        have absent := List.find?_eq_none.mp found p declared
        simp at absent
    | some q =>
        have same : q.path = p.path := by
          refine Path.eq_of_text ?_
          simpa using List.find?_some found
        rw [List.inj_on_of_nodup_map c.distinct (List.mem_of_find?_eq_some found) declared same]

namespace Validation

variable (registry : Registry) (module : Component) (strict : Bool) (source : Option Text)

/-- An override that gives a text to a parameter which takes texts and has a bound. -/
def BoundsText (override : Path × Value) : Prop :=
  ∃ p ∈ module.parameters,
    p.path = override.1
    ∧ p.type = .scalar .str
    ∧ p.minimum.isSome = true
    ∧ ∃ t, override.2 = .text t

/-- The values that cannot be compared are the texts for text parameters with a bound. -/
theorem incomparable_iff {override : Path × Value}
    : Incomparable .record registry module override ↔ BoundsText module override := by
  have isText : (∃ t, override.2.toDatum = .text t) ↔ ∃ t, override.2 = .text t := by
    cases override.2 <;> simp [Value.toDatum]
  simp only [Incomparable, BoundsText, OverrideView.record, Component.parameter?_eq_some,
    Parameter.coerce_eq_incomparable, isText, and_assoc]

/-- What validation is to come to: the values that are kept, or some issues that are reported
together.
-/
def KeepsOrReports (outcome : Except Failure (List (Path × Value))) : Prop :=
  (∃ kept, outcome = .ok kept)
  ∨ ∃ issues, issues ≠ [] ∧ outcome = .error (.problem (.invalid issues source))

/-- Validation that is cut short neither keeps nor reports anything. -/
theorem not_keepsOrReports {outcome : Except Failure (List (Path × Value))}
    (short : outcome = .error .incomparable)
    : ¬ KeepsOrReports source outcome := by
  rintro (⟨kept, same⟩ | ⟨issues, _, same⟩)
  · exact nomatch same.symm.trans short
  · exact nomatch same.symm.trans short

/-- Where all values can be compared, validation keeps or reports; else it is cut short. -/
theorem validate_cases (overrides : List (Path × Value))
    : let outcome := (validate .record registry module strict source overrides).outcome
      ((∀ override ∈ overrides, ¬ Incomparable .record registry module override)
        ∧ KeepsOrReports source outcome)
      ∨ ((¬ ∀ override ∈ overrides, ¬ Incomparable .record registry module override)
        ∧ outcome = .error .incomparable) := by
  intro outcome
  have comparable : (examine .record registry module strict overrides).failure = none
      ↔ ∀ override ∈ overrides, ¬ Incomparable .record registry module override :=
    examine_failure_eq_none
  rw [← comparable]
  rcases examine_failure .record registry module strict overrides with complete | short
  · refine .inl ⟨complete, ?_⟩
    simp only [outcome, validate, complete]
    cases (examine .record registry module strict overrides).issues with
    | nil => exact .inl ⟨_, rfl⟩
    | cons first rest => exact .inr ⟨_, List.cons_ne_nil first rest, rfl⟩
  · refine .inr ⟨by simp [short], ?_⟩
    simp only [outcome, validate, short]

/-- Validation keeps the values or reports the issues together exactly if no override gives a text
to a text parameter with a bound; it is cut short, with all issues lost, exactly if one does.
-/
theorem validate_keepsOrReports_iff (overrides : Table Path Value)
    : let outcome := (validate .record registry module strict source overrides.entries).outcome
      (KeepsOrReports source outcome
        ↔ ∀ override ∈ overrides.entries, ¬ BoundsText module override)
      ∧ (outcome = .error .incomparable
        ↔ ∃ override ∈ overrides.entries, BoundsText module override) := by
  intro outcome
  have some : (∃ override ∈ overrides.entries, BoundsText module override)
      ↔ ¬ ∀ override ∈ overrides.entries, ¬ BoundsText module override := by
    push Not
    rfl
  rw [some]
  simp only [← incomparable_iff registry]
  rcases validate_cases registry module strict source overrides.entries with
    ⟨comparable, settled⟩ | ⟨stuck, short⟩
  · have whole : outcome ≠ .error .incomparable :=
      fun short => not_keepsOrReports source short settled
    exact ⟨iff_of_true settled comparable, iff_of_false whole (not_not_intro comparable)⟩
  · exact ⟨iff_of_false (not_keepsOrReports source short) stuck, iff_of_true short stuck⟩

theorem isComponentName_labelled : ("m.M" : Text).isComponentName = true := by
  decide

/-- A module with one parameter, which takes texts, and a bound for it. -/
def labelledBy (minimum : Option Double) : Component where
  reference := ⟨"m.M", isComponentName_labelled⟩
  kind := .module
  aliases := []
  description := []
  parameters := [⟨⟨"label", by decide⟩, .scalar .str, .missing, minimum, []⟩]
  declaring := .inr rfl
  distinct := by simp

/-- Validation does not always keep or report: the checks of components let a bound pass at a text
parameter, and the first text that is given for it ends validation.
-/
theorem validate_bounded_text
    : let zero : Double := .finite FiniteDouble.zero
      let overrides : Table Path Value :=
        Table.ofList [(⟨"label", by decide⟩, .text "a"), (⟨"other", by decide⟩, .bool true)]
      Component.check false
          (.map [("name", .text "m.M"), ("kind", .text "module"),
            ("parameters",
              .list [.map
                [("path", .text "label"), ("kind", .text "str"), ("minimum", .float zero)]])])
        = .ok (labelledBy (some zero))
      ∧ (validate .record Registry.empty (labelledBy (some zero)) true none
            overrides.entries).outcome
        = .error .incomparable
      ∧ ¬ KeepsOrReports none
          (validate .record Registry.empty (labelledBy (some zero)) true none
            overrides.entries).outcome := by
  intro zero overrides
  exact ⟨rfl, rfl, not_keepsOrReports none rfl⟩

end Validation

end Recommender
