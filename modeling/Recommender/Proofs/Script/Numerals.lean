import Mathlib.Data.List.TakeWhile
import Recommender.Proofs.Script.Numbers

/-! Numbers part by part. A text is read as a number exactly when it consists of a sign, digits, a
point with digits and an exponent, where most of these may be missing.
-/

namespace Recommender.Script

/-- What may stand in front of the digits of a number. -/
def signs : List Text :=
  [[], [CodePoint.minus], [CodePoint.plus]]

/-- A size with the sign that stands in front of it. -/
def signed (sign : Text) (size : Nat) : Int :=
  if sign = [CodePoint.minus] then -(size : Int) else size

/-- What may follow the digits of a number, with the exponent that it means. -/
inductive Power : Text → Int → Prop where
  | none : Power [] 0
  | some {letter : CodePoint} {sign digits : Text} :
      letter = 0x65 ∨ letter = 0x45 → sign ∈ signs → digits ≠ [] →
      (∀ c ∈ digits, c.isDigit = true) →
      Power (letter :: (sign ++ digits)) (signed sign (Text.decimalValue digits))

/-- The digits behind a point with the point. -/
def pointed : Option Text → Text
  | none => []
  | some fraction => CodePoint.dot :: fraction

/-- Numbers part by part: a text and what is read there. -/
inductive WritesNumber : Text → WrittenNumber → Prop where
  | mk {sign whole power : Text} {fraction : Option Text}
      {exponent : Option (Bool × List Nat)} :
      sign ∈ signs → (∀ c ∈ whole, c.isDigit = true) →
      (∀ digits ∈ fraction, ∀ c ∈ digits, c.isDigit = true) → whole ++ fraction.getD [] ≠ [] →
      exponent? power = some exponent →
      WritesNumber (sign ++ whole ++ pointed fraction ++ power)
        ⟨decide (sign = [CodePoint.minus]), whole.filterMap CodePoint.digit?,
          fraction.map fun digits => digits.filterMap CodePoint.digit?, exponent⟩

/-- A sign is taken off a text that has no other one behind it. -/
theorem spanSign_append {sign rest : Text} (isSign : sign ∈ signs)
    (unsigned : ∀ c ∈ rest.head?, c ≠ CodePoint.minus ∧ c ≠ CodePoint.plus)
    : spanSign (sign ++ rest) = (decide (sign = [CodePoint.minus]), rest) := by
  simp only [signs, List.mem_cons, List.not_mem_nil, or_false] at isSign
  rcases isSign with rfl | rfl | rfl
  · exact spanSign_signText false unsigned
  · rfl
  · rfl

/-- The sign that is taken off a text. -/
theorem spanSign_eq (t : Text)
    : ∃ sign ∈ signs,
        t = sign ++ (spanSign t).2 ∧ (spanSign t).1 = decide (sign = [CodePoint.minus]) := by
  fun_cases spanSign t with
  | case1 rest => exact ⟨[CodePoint.minus], by decide, rfl, rfl⟩
  | case2 rest => exact ⟨[CodePoint.plus], by decide, rfl, rfl⟩
  | case3 => exact ⟨[], by decide, rfl, rfl⟩

/-- The digits that are taken off a text. -/
theorem spanDigits_eq (t : Text)
    : ∃ digits : Text,
        (∀ c ∈ digits, c.isDigit = true)
        ∧ t = digits ++ (spanDigits t).2
        ∧ (spanDigits t).1 = digits.filterMap CodePoint.digit? :=
  ⟨t.takeWhile CodePoint.isDigit, fun _ member => List.mem_takeWhile_imp member,
    List.takeWhile_append_dropWhile.symm, rfl⟩

theorem filterMap_digit?_eq_nil {t : Text} (digits : ∀ c ∈ t, c.isDigit = true)
    : t.filterMap CodePoint.digit? = [] ↔ t = [] := by
  rw [← List.length_eq_zero_iff, Text.length_filterMap_digit? digits, List.length_eq_zero_iff]

/-- What is read as a number writes it part by part. -/
theorem writesNumber_of_number? {t : Text} {written : WrittenNumber}
    (read : number? t = some written)
    : WritesNumber t written := by
  obtain ⟨sign, isSign, signForm, negative⟩ := spanSign_eq t
  obtain ⟨whole, wholeDigits, wholeForm, wholeRead⟩ := spanDigits_eq (spanSign t).2
  rw [wholeForm] at signForm
  simp only [number?, wholeRead, negative] at read
  generalize (spanDigits (spanSign t).2).2 = after at read signForm
  split at read
  · next rest =>
      obtain ⟨fraction, digits, form, fractionRead⟩ := spanDigits_eq rest
      rw [form] at signForm
      simp only [fractionRead] at read
      rw [Option.ite_none_left_eq_some, Option.map_eq_some_iff] at read
      obtain ⟨some, exponent, ends, rfl⟩ := read
      have text : t = sign ++ whole ++ pointed (Option.some fraction) ++ (spanDigits rest).2 := by
        rw [signForm]
        simp [pointed]
      rw [text]
      refine .mk isSign wholeDigits (by simpa using digits) ?_ ends
      rintro none
      obtain ⟨rfl, rfl⟩ := List.append_eq_nil_iff.mp none
      exact some rfl
  · rw [Option.ite_none_left_eq_some, Option.map_eq_some_iff] at read
    obtain ⟨some, exponent, ends, rfl⟩ := read
    have text : t = sign ++ whole ++ pointed none ++ after := by
      rw [signForm]
      simp [pointed]
    rw [text]
    refine .mk isSign wholeDigits (by simp) ?_ ends
    rintro none
    obtain ⟨rfl, -⟩ := List.append_eq_nil_iff.mp none
    exact some rfl

/-- What is written as a number part by part is read as that number. -/
theorem number?_of_writesNumber {t : Text} {written : WrittenNumber}
    (writes : WritesNumber t written)
    : number? t = some written := by
  cases writes with
  | @mk sign whole power fraction exponent isSign wholeDigits fractionDigits some read =>
      obtain ⟨ends, noPoint⟩ := exponent?_head read
      have unsigned
          : ∀ c ∈ (whole ++ (pointed fraction ++ power)).head?,
              c ≠ CodePoint.minus ∧ c ≠ CodePoint.plus := by
        cases whole with
        | cons => exact unsigned_of_digits wholeDigits (by simp)
        | nil =>
            -- without digits in front of it there is a point
            cases fraction with
            | none => exact absurd rfl some
            | some =>
                simp only [pointed, List.nil_append, List.cons_append, List.head?_cons,
                  Option.mem_def, Option.some.injEq, forall_eq']
                decide
      cases fraction with
      | none =>
          have nonempty := Text.isEmpty_filterMap_digit? wholeDigits (by simpa using some)
          simp only [pointed, List.nil_append, List.append_nil, List.append_assoc] at unsigned ⊢
          simp only [number?, spanSign_append isSign unsigned, spanDigits_append wholeDigits ends]
          split
          · exact absurd rfl (noPoint CodePoint.dot rfl)
          · simp [nonempty, read]
      | some row =>
          have rowDigits : ∀ c ∈ row, c.isDigit = true := fractionDigits row rfl
          have nonempty : ¬ ((whole.filterMap CodePoint.digit?).isEmpty
              && (row.filterMap CodePoint.digit?).isEmpty) = true := by
            rw [Bool.and_eq_true, List.isEmpty_iff, List.isEmpty_iff,
              filterMap_digit?_eq_nil wholeDigits, filterMap_digit?_eq_nil rowDigits]
            exact fun empty => some (List.append_eq_nil_iff.mpr empty)
          have point : EndsDigits (CodePoint.dot :: (row ++ power)) := endsDigits_cons _ (by decide)
          simp only [pointed, List.cons_append, List.append_assoc] at unsigned ⊢
          simp only [number?, spanSign_append isSign unsigned, spanDigits_append wholeDigits point]
          split
          · next rest same =>
              obtain rfl := (List.cons.inj same).2
              simp only [spanDigits_append rowDigits ends, Option.getD_some, read, if_neg nonempty,
                Option.map_some]
          · next other => exact absurd rfl (other (row ++ power))

/-- The exponent that is read behind the digits of a number. -/
def exponentOf : Option (Bool × List Nat) → Int
  | none => 0
  | some (negative, digits) =>
    let size : Int := Text.ofDecimalDigits digits
    if negative then -size else size

theorem toDouble_eq (n : WrittenNumber)
    : n.toDouble
      = Double.ofDecimal n.negative (Text.ofDecimalDigits (n.whole ++ n.fraction.getD []))
          (exponentOf n.exponent - (n.fraction.getD []).length) := by
  obtain ⟨negative, whole, fraction, exponent⟩ := n
  cases exponent <;> rfl

/-- There is no exponent only where nothing is left. -/
theorem exponent?_eq_none_iff {t : Text} {exponent : Option (Bool × List Nat)}
    (read : exponent? t = some exponent)
    : exponent = none ↔ t = [] := by
  cases t with
  | nil => simp [← Option.some.inj read]
  | cons c rest =>
      simp only [exponent?] at read
      repeat' split at read
      all_goals cases read
      simp

theorem power_of_exponent? {t : Text} {exponent : Option (Bool × List Nat)}
    (read : exponent? t = some exponent)
    : Power t (exponentOf exponent) := by
  cases t with
  | nil =>
      cases read
      exact .none
  | cons letter rest =>
      obtain ⟨sign, isSign, signForm, negative⟩ := spanSign_eq rest
      obtain ⟨digits, isDigits, form, digitsRead⟩ := spanDigits_eq (spanSign rest).2
      simp only [exponent?, Bool.or_eq_true, decide_eq_true_eq] at read
      split at read
      · next isLetter =>
          split at read
          · cases read
          · next whole =>
              simp only [digitsRead, List.isEmpty_iff, Bool.not_eq_eq_eq_not, Bool.not_true,
                List.isEmpty_eq_false_iff, filterMap_digit?_eq_nil isDigits, not_or,
                not_not] at whole
              obtain ⟨nonempty, ended⟩ := whole
              rw [ended, List.append_nil] at form
              have power := Power.some isLetter isSign nonempty isDigits
              rw [show sign ++ digits = rest by rw [← form]; exact signForm.symm] at power
              cases read
              rw [exponentOf, digitsRead, negative]
              simpa [signed, Text.decimalValue] using power
      · cases read

theorem exponent?_of_power {t : Text} {exponent : Int} (power : Power t exponent)
    : ∃ read, exponent? t = some read ∧ exponentOf read = exponent := by
  cases power with
  | none => exact ⟨none, rfl, rfl⟩
  | @some letter sign digits isLetter isSign nonempty isDigits =>
      have unsigned : ∀ c ∈ (digits ++ []).head?, c ≠ CodePoint.minus ∧ c ≠ CodePoint.plus :=
        unsigned_of_digits isDigits nonempty
      have span := spanDigits_append isDigits endsDigits_nil
      have read := Text.isEmpty_filterMap_digit? isDigits nonempty
      rw [List.append_nil] at unsigned span
      refine ⟨some (decide (sign = [CodePoint.minus]), digits.filterMap CodePoint.digit?), ?_, ?_⟩
      · simp [exponent?, isLetter, spanSign_append isSign unsigned, span, read]
      · simp [exponentOf, signed, Text.decimalValue]

end Recommender.Script
