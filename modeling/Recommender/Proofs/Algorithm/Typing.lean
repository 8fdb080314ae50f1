import Recommender.Proofs.Algorithm.Coercion
import Recommender.Proofs.Algorithm.Overrides
import Recommender.Proofs.Pointwise

/-! The types of validated overrides. A relation says what each type of parameter makes of a value,
without the steps of a conversion; validation keeps exactly the values that it allows and that the
bounds let through, so what is kept has the type that the module declares.
-/

namespace Recommender

-----------------------------------------------------------------------------------------
-- Numbers
-----------------------------------------------------------------------------------------

/-- A size is a multiple of a part exactly when nothing is left, and the quotient tells which. -/
theorem eq_mul_iff_mod {size part : Nat} (positive : 0 < part) {n : Int}
    : (size : Int) = n * part ↔ size % part = 0 ∧ ((size / part : Nat) : Int) = n := by
  have nonzero : (part : Int) ≠ 0 := by omega
  constructor
  · intro same
    have divides : part ∣ size :=
      Int.natCast_dvd_natCast.mp ⟨n, by rw [same, Int.mul_comm]⟩
    refine ⟨Nat.mod_eq_zero_of_dvd divides, ?_⟩
    rw [Int.natCast_ediv, same, Int.mul_ediv_cancel n nonzero]
  · rintro ⟨whole, rfl⟩
    rw [← Int.natCast_mul, Nat.div_mul_cancel (Nat.dvd_of_mod_eq_zero whole)]

/-- The integer of a number is the one that the number is equal to. -/
theorem FiniteDouble.toInt?_eq_some {x : FiniteDouble} {n : Int}
    : x.toInt? = some n ↔ x.equalsInt n = true := by
  have positive : 0 < 2 ^ unitPlaces := Nat.two_pow_pos _
  have unit : ((2 ^ unitPlaces : Nat) : Int) = 2 ^ unitPlaces := Int.natCast_pow 2 unitPlaces
  rw [toInt?, equalsInt, signedUnits, decide_eq_true_eq, ← unit]
  cases x.negative with
  | false =>
      rw [if_neg Bool.false_ne_true, eq_mul_iff_mod positive]
      split
      · next whole => rw [Option.some.injEq, and_iff_right whole, if_neg Bool.false_ne_true]
      · next rest => exact iff_of_false (nomatch ·) fun ⟨whole, _⟩ => rest whole
  | true =>
      have opposite : -(x.units : Int) = n * (2 ^ unitPlaces : Nat)
          ↔ (x.units : Int) = -n * (2 ^ unitPlaces : Nat) := by
        rw [Int.neg_mul, Int.neg_eq_comm, eq_comm]
      rw [if_pos rfl, opposite, eq_mul_iff_mod positive]
      split
      · next whole =>
          rw [Option.some.injEq, and_iff_right whole, if_pos rfl, Int.neg_eq_comm, eq_comm]
      · next rest => exact iff_of_false (nomatch ·) fun ⟨whole, _⟩ => rest whole

/-- What a number or a truth value comes to in units. -/
def Value.units? : Value → Option Int
  | .bool b => some ((if b then 1 else 0) * 2 ^ unitPlaces)
  | .int n => some (n * 2 ^ unitPlaces)
  | .float x => some x.signedUnits
  | .text _ => none
  | .reference _ => none

/-- A bound below which a number of units does not lie. Nothing lies below what is no number. -/
def Double.IsLowerBound (bound : Double) (units : Int) : Prop :=
  match bound with
  | .nan => True
  | .infinite negative => negative = true
  | .finite x => x.signedUnits ≤ units

instance (bound : Double) (units : Int) : Decidable (bound.IsLowerBound units) :=
  match bound with
  | .nan => inferInstanceAs (Decidable True)
  | .infinite negative => inferInstanceAs (Decidable (negative = true))
  | .finite x => inferInstanceAs (Decidable (x.signedUnits ≤ units))

/-- A value that is equal to an integer and is no truth value. -/
inductive Datum.EqualsInt : Datum → Int → Prop where
  | int (n : Int) : Datum.EqualsInt (.int n) n
  | float {x : FiniteDouble} {n : Int} (same : x.equalsInt n = true) :
      Datum.EqualsInt (.float (.finite x)) n

namespace Parameter

/-- Exactly the numbers and truth values that are not below a bound pass it, by the kinds of bounds
and of values.
-/
theorem isBelow?_eq_false {bound : Double} {value : Value}
    : isBelow? bound value = some false
      ↔ ∃ units, value.units? = some units ∧ bound.IsLowerBound units := by
  cases value with
  | text t => simp [isBelow?, Value.units?]
  | reference r => simp [isBelow?, Value.units?]
  | int n => cases bound <;> simp [isBelow?, Value.units?, Double.intLess, Double.IsLowerBound]
  | bool b => cases bound <;> simp [isBelow?, Value.units?, Double.intLess, Double.IsLowerBound]
  | float x => cases bound <;> simp [isBelow?, Value.units?, Double.less, Double.IsLowerBound]

-----------------------------------------------------------------------------------------
-- Conversions
-----------------------------------------------------------------------------------------

/-- What a type of parameter makes of a value. Of integers and whole numbers the truth values are
zero and one, and a whole number beyond 63 bits gives no integer.
-/
inductive Converts (registry : Registry) : ParameterType → Datum → Value → Prop where
  | int (n : Int) : Converts registry (.scalar .int) (.int n) (.int n)
  | whole {x : FiniteDouble} {n : Int} (same : x.equalsInt n = true) (small : n.natAbs < 2 ^ 63) :
      Converts registry (.scalar .int) (.float (.finite x)) (.int n)
  | float (x : FiniteDouble) : Converts registry (.scalar .float) (.float (.finite x)) (.float x)
  | nearest {n : Int} {x : FiniteDouble} (rounded : Double.ofInt n = .finite x) :
      Converts registry (.scalar .float) (.int n) (.float x)
  | bool (b : Bool) : Converts registry (.scalar .bool) (.bool b) (.bool b)
  | bit {n : Int} {b : Bool} (same : n = if b then 1 else 0) :
      Converts registry (.scalar .bool) (.int n) (.bool b)
  | wholeBit {x : FiniteDouble} {b : Bool} (same : x.equalsInt (if b then 1 else 0) = true) :
      Converts registry (.scalar .bool) (.float (.finite x)) (.bool b)
  | word {t : Text} {b : Bool} (unicode : t.any CodePoint.isSurrogate = false)
      (known : Schema.boolOfWord? t = some b) :
      Converts registry (.scalar .bool) (.text t) (.bool b)
  | text (t : Text) : Converts registry (.scalar .str) (.text t) (.text t)
  | component {kind : ComponentKind} {r : Reference} {c : Component}
      (found : registry.resolve r.name (some kind) = .ok c) (fits : c.kind = kind) :
      Converts registry (.component kind) (.reference r) (.reference c.reference)

variable {registry : Registry} {p : Parameter}

theorem smallInt?_eq_some {x : FiniteDouble} {n : Int}
    : Schema.smallInt? (.finite x) = some n ↔ x.equalsInt n = true ∧ n.natAbs < 2 ^ 63 := by
  rw [Schema.smallInt?, Option.filter_eq_some_iff, decide_eq_true_eq,
    FiniteDouble.toInt?_eq_some]

theorem boolOfInt?_eq_some {n : Int} {b : Bool}
    : Schema.boolOfInt? n = some b ↔ n = if b then 1 else 0 := by
  rw [Schema.boolOfInt?]
  cases b <;> grind

theorem coerceInt?_eq_some (registry : Registry) {d : Datum} {n : Int}
    : coerceInt? d = some n ↔ Converts registry (.scalar .int) d (.int n) := by
  cases d with
  | int m =>
      rw [coerceInt?, Option.some.injEq]
      exact ⟨fun same => same ▸ .int m, fun | .int _ => rfl⟩
  | float x =>
      cases x with
      | finite x =>
          rw [coerceInt?, smallInt?_eq_some]
          exact ⟨fun ⟨same, small⟩ => .whole same small, fun | .whole same small => ⟨same, small⟩⟩
      | infinite | nan => exact ⟨(nomatch ·), (nomatch ·)⟩
  | missing | bool | text | reference | list | map => exact ⟨(nomatch ·), (nomatch ·)⟩

theorem coerceDouble?_eq_some (registry : Registry) {d : Datum} {x : FiniteDouble}
    : coerceDouble? d = some (.finite x) ↔ Converts registry (.scalar .float) d (.float x) := by
  fun_cases coerceDouble? d with
  | case1 n y rounded =>
      rw [Option.some.injEq, Double.finite.injEq]
      refine ⟨fun same => .nearest (same ▸ rounded), fun converts => ?_⟩
      cases converts with
      | nearest again => exact Double.finite.inj (rounded.symm.trans again)
  | case2 n other =>
      refine ⟨(nomatch ·), fun converts => ?_⟩
      cases converts with
      | nearest rounded => exact absurd rounded (other x)
  | case3 y =>
      rw [Option.some.injEq]
      refine ⟨fun same => same ▸ .float x, fun converts => ?_⟩
      cases converts
      rfl
  | case4 d noInt noFloat =>
      refine ⟨(nomatch ·), fun converts => ?_⟩
      cases converts with
      | float x => exact absurd rfl (noFloat _)
      | nearest rounded => exact absurd rfl (noInt _)

/-- What stands for a truth value, shape by shape. -/
theorem bool_eq_ok (registry : Registry) {d : Datum} {b : Bool}
    : Schema.bool d = .ok b ↔ Converts registry (.scalar .bool) d (.bool b) := by
  cases d with
  | bool c =>
      rw [Schema.bool, Except.ok.injEq]
      exact ⟨fun same => same ▸ .bool c, fun | .bool _ => rfl⟩
  | int n =>
      have bit : Schema.bool (.int n) = .ok b ↔ Schema.boolOfInt? n = some b := by
        rw [Schema.bool]
        cases Schema.boolOfInt? n with
        | none =>
            dsimp only
            split <;> simp [Checked.fault]
        | some c => simp
      rw [bit, boolOfInt?_eq_some]
      exact ⟨.bit, fun | .bit same => same⟩
  | float x =>
      have bit : Schema.bool (.float x) = .ok b
          ↔ ∃ n, Schema.smallInt? x = some n ∧ Schema.boolOfInt? n = some b := by
        rw [Schema.bool]
        cases Schema.smallInt? x with
        | none => simp [Checked.fault]
        | some n =>
            dsimp only
            cases stands : Schema.boolOfInt? n <;> simp [Checked.fault, stands]
      rw [bit]
      cases x with
      | finite x =>
          simp only [smallInt?_eq_some, boolOfInt?_eq_some]
          constructor
          · rintro ⟨n, ⟨same, _⟩, rfl⟩
            exact .wholeBit same
          · intro converts
            cases converts with
            | wholeBit same => exact ⟨_, ⟨same, by cases b <;> decide⟩, rfl⟩
      | infinite | nan =>
          refine ⟨?_, (nomatch ·)⟩
          rintro ⟨n, ⟨⟩, _⟩
  | text t =>
      have known : Schema.bool (.text t) = .ok b
          ↔ t.any CodePoint.isSurrogate = false ∧ Schema.boolOfWord? t = some b := by
        rw [Schema.bool, Schema.standing]
        cases t.any CodePoint.isSurrogate with
        | true => simp [Checked.fault]
        | false => cases Schema.boolOfWord? t <;> simp [Checked.fault]
      rw [known]
      exact ⟨fun ⟨unicode, known⟩ => .word unicode known,
        fun | .word unicode known => ⟨unicode, known⟩⟩
  | missing | reference | list | map => exact ⟨(nomatch ·), (nomatch ·)⟩

/-- A scalar parameter makes exactly the conversions of its type, bounds aside, kind by kind. -/
theorem coerceScalar_eq_ok (registry : Registry) {kind : ScalarKind} {d : Datum} {value : Value}
    : p.coerceScalar kind d = .ok value ↔ Converts registry (.scalar kind) d value := by
  cases kind with
  | int =>
      have made : p.coerceScalar .int d = .ok value
          ↔ ∃ n, coerceInt? d = some n ∧ .int n = value := by
        rw [coerceScalar]
        cases coerceInt? d <;> simp [refuse]
      simp only [made, coerceInt?_eq_some registry]
      constructor
      · rintro ⟨n, converts, rfl⟩
        exact converts
      · intro converts
        cases converts with
        | int n => exact ⟨n, .int n, rfl⟩
        | whole same small => exact ⟨_, .whole same small, rfl⟩
  | float =>
      have made : p.coerceScalar .float d = .ok value
          ↔ ∃ x, coerceDouble? d = some (.finite x) ∧ .float x = value := by
        rw [coerceScalar]
        cases coerceDouble? d with
        | none => simp [refuse]
        | some x => cases x <;> simp [refuse]
      simp only [made, coerceDouble?_eq_some registry]
      constructor
      · rintro ⟨x, converts, rfl⟩
        exact converts
      · intro converts
        cases converts with
        | float x => exact ⟨x, .float x, rfl⟩
        | nearest rounded => exact ⟨_, .nearest rounded, rfl⟩
  | bool =>
      have made : p.coerceScalar .bool d = .ok value
          ↔ ∃ b, Schema.bool d = .ok b ∧ .bool b = value := by
        rw [coerceScalar]
        cases Schema.bool d <;> simp [refuse]
      simp only [made, bool_eq_ok registry]
      constructor
      · rintro ⟨b, converts, rfl⟩
        exact converts
      · intro converts
        cases converts with
        | bool b => exact ⟨b, .bool b, rfl⟩
        | bit same => exact ⟨_, .bit same, rfl⟩
        | wholeBit same => exact ⟨_, .wholeBit same, rfl⟩
        | word unicode known => exact ⟨_, .word unicode known, rfl⟩
  | str =>
      cases d with
      | text t =>
          rw [coerceScalar, Except.ok.injEq]
          constructor
          · rintro rfl
            exact .text t
          · rintro ⟨⟩
            rfl
      | missing | bool | int | float | reference | list | map => constructor <;> rintro ⟨⟩

/-- A bound that there is lets a value through: a number or a truth value that is not below it. -/
def WithinBound (p : Parameter) (value : Value) : Prop :=
  ∀ bound, p.minimum = some bound →
    ∃ units, value.units? = some units ∧ bound.IsLowerBound units

/-- A parameter makes exactly the conversions of its type that its bound lets through; the bound of
a component parameter is not looked at.
-/
theorem coerce_eq_ok {d : Datum} {value : Value}
    : p.coerce registry d = .ok value
      ↔ Converts registry p.type d value
        ∧ (p.type.componentKind? = none → p.WithinBound value) := by
  cases type : p.type with
  | component kind =>
      rw [coerce_component type, coerceComponent_eq_ok]
      constructor
      · rintro ⟨r, c, rfl, found, fits, rfl⟩
        exact ⟨.component found fits, (nomatch ·)⟩
      · rintro ⟨converts, _⟩
        cases converts with
        | component found fits => exact ⟨_, _, rfl, found, fits, rfl⟩
  | scalar kind =>
      rw [coerce_scalar_eq_ok type, coerceScalar_eq_ok registry]
      simp only [isBelow?_eq_false]
      constructor
      · rintro ⟨_, converts, within⟩
        exact ⟨converts, fun _ => within⟩
      · rintro ⟨converts, within⟩
        refine ⟨?_, converts, within rfl⟩
        rintro r rfl
        cases converts

-----------------------------------------------------------------------------------------
-- Types
-----------------------------------------------------------------------------------------

/-- A value has a type. One of a component type is the full name of a registered component of that
kind.
-/
inductive HasType (registry : Registry) : ParameterType → Value → Prop where
  | int (n : Int) : HasType registry (.scalar .int) (.int n)
  | float (x : FiniteDouble) : HasType registry (.scalar .float) (.float x)
  | bool (b : Bool) : HasType registry (.scalar .bool) (.bool b)
  | text (t : Text) : HasType registry (.scalar .str) (.text t)
  | component {kind : ComponentKind} {c : Component} (registered : c ∈ registry.toList)
      (fits : c.kind = kind) :
      HasType registry (.component kind) (.reference c.reference)

/-- What is expected of the value that a parameter makes of a given one: it has the type of the
parameter and is not below its bound, and it was not made of something of another sort. An integer
is equal to what was given and a text is what was given; a reference is to the component that the
given one stands for.
-/
structure Conforms (registry : Registry) (p : Parameter) (d : Datum) (value : Value) : Prop where
  typed : HasType registry p.type value
  ofNumber
    : p.type = .scalar .int ∨ p.type = .scalar .float → (∃ n, d = .int n) ∨ ∃ x, d = .float x
  ofScalar : ∀ kind, p.type = .scalar kind → ∀ r, d ≠ .reference r
  equal : p.type = .scalar .int → ∃ n, value = .int n ∧ d.EqualsInt n
  unchanged : p.type = .scalar .str → d = value.toDatum
  resolved
    : ∀ kind, p.type = .component kind →
        ∃ r c,
          d = .reference r
          ∧ registry.resolve r.name (some kind) = .ok c
          ∧ value = .reference c.reference
  bounded
    : ∀ bound units, p.minimum = some bound → value.units? = some units →
        bound.IsLowerBound units

/-- What is converted has the type that it is converted to. -/
theorem Converts.hasType (sound : registry.Sound) {type : ParameterType} {d : Datum}
    {value : Value} (converts : Converts registry type d value)
    : HasType registry type value := by
  cases converts with
  | int n => exact .int n
  | whole => exact .int _
  | float x => exact .float x
  | nearest => exact .float _
  | bool b => exact .bool b
  | bit | wholeBit | word => exact .bool _
  | text t => exact .text t
  | component found fits =>
      exact .component (sound.mem_toList.mpr (sound.registered_of_resolve found)) fits

/-- Only a number gives a number. -/
theorem Converts.ofNumber {type : ParameterType} {d : Datum} {value : Value}
    (converts : Converts registry type d value)
    (isNumber : type = .scalar .int ∨ type = .scalar .float)
    : (∃ n, d = .int n) ∨ ∃ x, d = .float x := by
  cases converts with
  | int | nearest => exact .inl ⟨_, rfl⟩
  | whole | float => exact .inr ⟨_, rfl⟩
  | bool | bit | wholeBit | word | text | component => simp at isNumber

/-- The value that a parameter makes of a given one is as expected. -/
theorem conforms_of_coerce (sound : registry.Sound) {d : Datum} {value : Value}
    (made : p.coerce registry d = .ok value)
    : p.Conforms registry d value := by
  obtain ⟨converts, within⟩ := coerce_eq_ok.mp made
  refine ⟨converts.hasType sound, converts.ofNumber, ?_, ?_, ?_, ?_, ?_⟩
  · rintro kind type r rfl
    rw [type] at converts
    cases converts
  · intro type
    rw [type] at converts
    cases converts with
    | int n => exact ⟨n, rfl, .int n⟩
    | whole same small => exact ⟨_, rfl, .float same⟩
  · intro type
    rw [type] at converts
    cases converts
    rfl
  · intro kind type
    rw [type] at converts
    cases converts with
    | component found fits => exact ⟨_, _, rfl, found, rfl⟩
  · intro bound units least size
    cases type : p.type with
    | component kind =>
        rw [type] at converts
        cases converts
        cases size
    | scalar kind =>
        obtain ⟨units', size', reached⟩ := within (by rw [type]; rfl) bound least
        rw [size] at size'
        exact Option.some.inj size' ▸ reached

end Parameter

-----------------------------------------------------------------------------------------
-- Validated overrides
-----------------------------------------------------------------------------------------

namespace Validation

variable {κ β : Type} {view : OverrideView κ β} {registry : Registry} {module : Component}
  {strict : Bool} {source : Option Text}

/-- What is kept for an override: itself, where validation is lenient and its path is not declared,
and else what its parameter makes of it.
-/
inductive Keeps (view : OverrideView κ β) (registry : Registry) (module : Component)
    (strict : Bool) (override : κ × β)
    : κ × β → Prop where
  | undeclared (unknown : module.parameter? (view.path override.1) = none)
      (lenient : strict = false) :
      Keeps view registry module strict override override
  | declared {p : Parameter} {value : Value}
      (known : module.parameter? (view.path override.1) = some p)
      (converts : Parameter.Converts registry p.type (view.datum override.2) value)
      (within : p.type.componentKind? = none → p.WithinBound value) :
      Keeps view registry module strict override (override.1, view.value value)

theorem keeps_iff {override kept : κ × β}
    : Keeps view registry module strict override kept
      ↔ (keptValue? view registry module strict override).map (override.1, ·) = some kept := by
  rw [Option.map_eq_some_iff]
  simp only [keptValue?_eq_some, Parameter.coerce_eq_ok]
  constructor
  · intro keeps
    cases keeps with
    | undeclared unknown lenient => exact ⟨_, .inl ⟨unknown, lenient, rfl⟩, rfl⟩
    | declared known converts within =>
        exact ⟨_, .inr ⟨_, _, known, ⟨converts, within⟩, rfl⟩, rfl⟩
  · rintro ⟨value, ⟨unknown, lenient, rfl⟩ | ⟨p, made, known, ⟨converts, within⟩, rfl⟩, rfl⟩
    · exact .undeclared unknown lenient
    · exact .declared known converts within

/-- Validation keeps exactly what is kept for each single override, in their order. -/
theorem validate_eq_ok {overrides kept : List (κ × β)}
    : (validate view registry module strict source overrides).outcome = .ok kept
      ↔ List.Forall₂ (Keeps view registry module strict) overrides kept := by
  have keeps : Keeps view registry module strict
      = fun override kept =>
          (keptValue? view registry module strict override).map (override.1, ·) = some kept :=
    funext₂ fun _ _ => propext keeps_iff
  rw [keeps, Pointwise.filterMap_iff]
  simp only [Option.isSome_map, ← accepted_iff]
  rw [validate]
  rcases examine_failure view registry module strict overrides with complete | short
  · obtain ⟨comparable, issues, kept'⟩ := examine_of_complete complete
    simp only [complete, issues, kept']
    cases overrides.filterMap (overrideIssue? view registry module strict) with
    | nil =>
        exact ⟨fun same => ⟨⟨comparable, rfl⟩, Except.ok.inj same⟩,
          fun ⟨_, same⟩ => congrArg Except.ok same⟩
    | cons first rest => exact ⟨(nomatch ·), fun ⟨⟨_, empty⟩, _⟩ => nomatch empty⟩
  · simp only [short]
    refine ⟨(nomatch ·), fun ⟨⟨comparable, _⟩, _⟩ => ?_⟩
    exact nomatch short.symm.trans (examine_failure_eq_none.mpr comparable)

/-- What is kept for an override that conforms to the declarations of a module: where its path is
declared, a value of the parameter that conforms to it, and else what was given.
-/
structure KeepsConforming (view : OverrideView κ β) (registry : Registry) (module : Component)
    (strict : Bool) (override kept : κ × β)
    : Prop where
  path : kept.1 = override.1
  declared
    : ∀ p, module.parameter? (view.path override.1) = some p →
        ∃ value,
          kept.2 = view.value value
          ∧ p.Conforms registry (view.datum override.2) value
  undeclared
    : module.parameter? (view.path override.1) = none → strict = false ∧ kept.2 = override.2

theorem Keeps.conforming (sound : registry.Sound) {override kept : κ × β}
    (keeps : Keeps view registry module strict override kept)
    : KeepsConforming view registry module strict override kept := by
  cases keeps with
  | undeclared unknown lenient =>
      exact ⟨rfl, fun p known => (nomatch unknown.symm.trans known), fun _ => ⟨lenient, rfl⟩⟩
  | @declared p value known converts within =>
      have made := Parameter.coerce_eq_ok.mpr ⟨converts, within⟩
      refine ⟨rfl, fun q known' => ?_, fun unknown => nomatch unknown.symm.trans known⟩
      obtain rfl := Option.some.inj (known.symm.trans known')
      exact ⟨value, rfl, Parameter.conforms_of_coerce sound made⟩

/-- Validation succeeds exactly with what is kept for the single overrides, in their order, and all
that it then keeps conforms to the declarations of the module.
-/
theorem validate_conforms (actions : List Registry.Action) (view : OverrideView κ β)
    (module : Component) (strict : Bool) (source : Option Text) (overrides kept : List (κ × β))
    : let registry := Registry.Action.run actions
      let outcome := (validate view registry module strict source overrides).outcome
      (outcome = .ok kept ↔ List.Forall₂ (Keeps view registry module strict) overrides kept)
      ∧ (outcome = .ok kept →
          kept.map Prod.fst = overrides.map Prod.fst
          ∧ List.Forall₂ (KeepsConforming view registry module strict) overrides kept) := by
  intro registry outcome
  have sound : registry.Sound := Registry.sound_run actions
  refine ⟨validate_eq_ok, fun made => ?_⟩
  have conforming : List.Forall₂ (KeepsConforming view registry module strict) overrides kept :=
    (validate_eq_ok.mp made).imp fun _ _ keeps => keeps.conforming sound
  exact ⟨(Pointwise.map_eq conforming fun keeps => keeps.path.symm).symm, conforming⟩

/-- A module with a bounded integer, a number, a truth value and a clamp. -/
def typed : Component where
  reference := ⟨"t.Typed", by decide⟩
  kind := .module
  aliases := []
  description := []
  parameters :=
    [⟨⟨"neighbours", by decide⟩, .scalar .int, .missing, some (.finite .one), []⟩,
      ⟨⟨"shrinkage", by decide⟩, .scalar .float, .missing, none, []⟩,
      ⟨⟨"centred", by decide⟩, .scalar .bool, .missing, none, []⟩,
      ⟨⟨"limiter", by decide⟩, .component .clamp, .missing, none, []⟩]
  declaring := .inr rfl
  distinct := by decide

/-- A clamp with another name. -/
def aliasedClamp : Component :=
  Registry.aliased ⟨"t.Limit", by decide⟩ ["limit"]

/-- Whole numbers, words and aliases are converted, and what is not declared passes. -/
theorem validate_conforms_typed
    : let registry := Registry.Action.run [.register aliasedClamp false]
      let overrides : List (Path × Value) :=
        [(⟨"limiter", by decide⟩, .reference ⟨"limit", by decide⟩),
          (⟨"neighbours", by decide⟩, .float .one),
          (⟨"undeclared", by decide⟩, .text "1"),
          (⟨"centred", by decide⟩, .text "yes"),
          (⟨"shrinkage", by decide⟩, .float .zero)]
      let kept : List (Path × Value) :=
        [(⟨"limiter", by decide⟩, .reference ⟨"t.Limit", by decide⟩),
          (⟨"neighbours", by decide⟩, .int 1),
          (⟨"undeclared", by decide⟩, .text "1"),
          (⟨"centred", by decide⟩, .bool true),
          (⟨"shrinkage", by decide⟩, .float .zero)]
      (validate .record registry typed false none overrides).outcome = .ok kept
      ∧ kept.map Prod.fst = overrides.map Prod.fst
      ∧ List.Forall₂ (KeepsConforming .record registry typed false) overrides kept := by
  intro registry overrides kept
  have conforms :=
    validate_conforms [.register aliasedClamp false] .record typed false none overrides kept
  have limited : Keeps .record registry typed false (overrides[0]) (kept[0]) := by
    refine .declared rfl (.component (c := aliasedClamp) rfl rfl) ?_
    rintro ⟨⟩
  have sized : Keeps .record registry typed false (overrides[1]) (kept[1]) := by
    refine .declared rfl (.whole (by decide +kernel) (by decide)) ?_
    rintro - bound ⟨⟩
    exact ⟨_, rfl, by decide +kernel⟩
  have centred : Keeps .record registry typed false (overrides[3]) (kept[3]) := by
    refine .declared rfl (.word rfl rfl) ?_
    rintro - bound ⟨⟩
  have shrunk : Keeps .record registry typed false (overrides[4]) (kept[4]) := by
    refine .declared rfl (.float .zero) ?_
    rintro - bound ⟨⟩
  have made : (validate .record registry typed false none overrides).outcome = .ok kept :=
    conforms.1.mpr
      (.cons limited
        (.cons sized (.cons (.undeclared rfl rfl) (.cons centred (.cons shrunk .nil)))))
  exact ⟨made, conforms.2 made⟩

end Validation

end Recommender
