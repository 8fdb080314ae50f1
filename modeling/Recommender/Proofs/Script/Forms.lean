import Recommender.Proofs.Script.Numerals
import Recommender.Proofs.Script.Values

/-! Written forms of values. A text that is read as a value is a literal, an integer, another
number, a truth value or a name. Each of these forms is read as the one value that it denotes, but
for integers with more digits than are read.
-/

namespace Recommender.Script

-----------------------------------------------------------------------------------------
-- Literals
-----------------------------------------------------------------------------------------

/-- What is found between two quotes may stand there, by the recursion of the search. -/
theorem enclosed_of_literalBody? {quote : CodePoint} {t body : Text}
    (found : literalBody? quote t = some body)
    : t = body ++ [quote] ∧ Enclosed quote body := by
  fun_induction literalBody? quote t generalizing body with
  | case1 => cases found
  | case2 rest => cases found
  | case3 c rest noLineFeed ih =>
      obtain ⟨inner, read, rfl⟩ := Option.map_eq_some_iff.mp found
      obtain ⟨rfl, enclosed⟩ := ih read
      exact ⟨rfl, .escape noLineFeed enclosed⟩
  | case4 =>
      obtain rfl := Option.some.inj found
      exact ⟨rfl, .nil⟩
  | case5 => cases found
  | case6 => cases found
  | case7 c rest _ _ other ih =>
      obtain ⟨inner, read, rfl⟩ := Option.map_eq_some_iff.mp found
      obtain ⟨rfl, enclosed⟩ := ih read
      simp only [Bool.or_eq_true, decide_eq_true_eq, not_or] at other
      exact ⟨rfl, .plain other.1.1 other.1.2 other.2 enclosed⟩

/-- A text is a literal exactly when it stands between two equal quotes. -/
theorem literalBodyOf?_eq_some {t body : Text}
    : literalBodyOf? t = some body
      ↔ ∃ quote, isQuote quote = true ∧ Enclosed quote body ∧ t = quote :: (body ++ [quote]) := by
  constructor
  · intro found
    unfold literalBodyOf? at found
    split at found
    · obtain ⟨rfl, enclosed⟩ := enclosed_of_literalBody? found
      exact ⟨_, by decide, enclosed, rfl⟩
    · obtain ⟨rfl, enclosed⟩ := enclosed_of_literalBody? found
      exact ⟨_, by decide, enclosed, rfl⟩
    · cases found
  · rintro ⟨quote, opens, enclosed, rfl⟩
    have found := literalBody?_of_enclosed enclosed
    simp only [isQuote, Bool.or_eq_true, decide_eq_true_eq] at opens
    rcases opens with rfl | rfl <;> exact found

-----------------------------------------------------------------------------------------
-- Numbers
-----------------------------------------------------------------------------------------

theorem bare_of_digits {t : Text} (digits : ∀ c ∈ t, c.isDigit = true) : Text.Bare t :=
  fun c member => CodePoint.isBare_of_isDigit (digits c member)

theorem bare_of_signs {sign : Text} (isSign : sign ∈ signs) : Text.Bare sign := by
  simp only [signs, List.mem_cons, List.not_mem_nil, or_false] at isSign
  rcases isSign with rfl | rfl | rfl <;> exact bare_of_all (by decide)

theorem bare_of_power {t : Text} {exponent : Int} (power : Power t exponent) : Text.Bare t := by
  cases power with
  | none => exact Text.bare_nil
  | @some letter sign digits isLetter isSign nonempty isDigits =>
      have first : Text.Bare [letter] := by
        rcases isLetter with rfl | rfl <;> exact bare_of_all (by decide)
      exact first.append ((bare_of_signs isSign).append (bare_of_digits isDigits))

/-- The parts of a number are bare. -/
theorem bare_of_parts {sign whole power : Text} {fraction : Option Text} {exponent : Int}
    (isSign : sign ∈ signs) (wholeDigits : ∀ c ∈ whole, c.isDigit = true)
    (fractionDigits : ∀ digits ∈ fraction, ∀ c ∈ digits, c.isDigit = true)
    (isPower : Power power exponent)
    : Text.Bare (sign ++ whole ++ pointed fraction ++ power) := by
  have point : Text.Bare (pointed fraction) := by
    cases fraction with
    | none => exact Text.bare_nil
    | some digits =>
        have dot : Text.Bare [CodePoint.dot] := bare_of_all (by decide)
        exact dot.append (bare_of_digits (fractionDigits digits rfl))
  exact (((bare_of_signs isSign).append (bare_of_digits wholeDigits)).append point).append
    (bare_of_power isPower)

/-- A text that is a number is bare. -/
theorem bare_of_number? {t : Text} {written : WrittenNumber} (read : number? t = some written)
    : Text.Bare t := by
  cases writesNumber_of_number? read with
  | mk isSign wholeDigits fractionDigits _ ends =>
      exact bare_of_parts isSign wholeDigits fractionDigits (power_of_exponent? ends)

-----------------------------------------------------------------------------------------
-- Values
-----------------------------------------------------------------------------------------

/-- The written forms of values, each with the value that it denotes. -/
inductive WritesValue : Text → Value → Prop where
  | literal {quote : CodePoint} {body denoted : Text} :
      isQuote quote = true → Enclosed quote body → denoted? body = some denoted →
      WritesValue (quote :: (body ++ [quote])) (.text denoted)
  | integer {sign digits : Text} :
      sign ∈ signs → digits ≠ [] → (∀ c ∈ digits, c.isDigit = true) →
      WritesValue (sign ++ digits) (.int (signed sign (Text.decimalValue digits)))
  | decimal {sign whole power : Text} {fraction : Option Text} {exponent : Int}
      {x : FiniteDouble} :
      sign ∈ signs → (∀ c ∈ whole, c.isDigit = true) →
      (∀ digits ∈ fraction, ∀ c ∈ digits, c.isDigit = true) → whole ++ fraction.getD [] ≠ [] →
      fraction.isSome = true ∨ power ≠ [] → Power power exponent →
      Double.ofDecimal (decide (sign = [CodePoint.minus]))
          (Text.decimalValue (whole ++ fraction.getD [])) (exponent - (fraction.getD []).length)
        = .finite x →
      WritesValue (sign ++ whole ++ pointed fraction ++ power) (.float x)
  | true : WritesValue "true" (.bool Bool.true)
  | false : WritesValue "false" (.bool Bool.false)
  | reference {r : Reference} :
      r.name ≠ "true" → r.name ≠ "false" → WritesValue r.name (.reference r)

/-- A text that is read as a number writes the integer or the floating point number. -/
theorem writesValue_of_number? {t : Text} {number : WrittenNumber} (read : number? t = some number)
    : (number.isInt = true → WritesValue t (.int number.toInt))
      ∧ ∀ x, number.isInt = false → number.toDouble = .finite x → WritesValue t (.float x) := by
  cases writesNumber_of_number? read with
  | @mk sign whole power fraction exponent isSign wholeDigits fractionDigits some ends =>
      have nothing := exponent?_eq_none_iff ends
      constructor
      · intro isInt
        simp only [WrittenNumber.isInt, Bool.and_eq_true, Option.isNone_iff_eq_none,
          Option.map_eq_none_iff, nothing] at isInt
        obtain ⟨rfl, rfl⟩ := isInt
        have nonempty : whole ≠ [] := by simpa using some
        simpa [pointed, WrittenNumber.toInt, signed, Text.decimalValue]
          using WritesValue.integer isSign nonempty wholeDigits
      · intro x notInt finite
        have parts : fraction.isSome = true ∨ power ≠ [] := by
          rw [Ne, ← nothing]
          cases fraction <;> cases exponent <;> simp_all [WrittenNumber.isInt]
        refine .decimal isSign wholeDigits fractionDigits some parts (power_of_exponent? ends) ?_
        rw [toDouble_eq] at finite
        cases fraction with
        | none => simpa [Text.decimalValue] using finite
        | some digits =>
            have length := Text.length_filterMap_digit? (fractionDigits digits rfl)
            simpa [Text.decimalValue, length] using finite

/-- A value that is read has one of the written forms. -/
theorem writesValue_of_trimmedValue {t : Text} {v : Value} (read : trimmedValue t = .ok v)
    : WritesValue t v := by
  unfold trimmedValue at read
  split at read
  · cases read
  · split at read
    · next body found =>
        obtain ⟨quote, opens, enclosed, rfl⟩ := literalBodyOf?_eq_some.mp found
        split at read
        · next denoted denotes =>
            cases read
            exact .literal opens enclosed denotes
        · cases read
    · split at read
      · next same =>
          cases read
          exact same ▸ .true
      · next noTrue =>
          split at read
          · next same =>
              cases read
              exact same ▸ .false
          · next noFalse =>
              split at read
              · next number isNumber =>
                  obtain ⟨integer, decimal⟩ := writesValue_of_number? isNumber
                  split at read
                  · next isInt =>
                      split at read
                      · cases read
                        exact integer isInt
                      · cases read
                  · next notInt =>
                      split at read
                      · next x finite =>
                          cases read
                          exact decimal x (by simpa using notInt) finite
                      · cases read
              · split at read
                · next reference named =>
                    cases read
                    obtain rfl := Reference.ofText?_eq_some.mp named
                    exact .reference noTrue noFalse
                · cases read

/-- An integer is read if it has not too many digits. -/
theorem trimmedValue_of_isInt {t : Text} {number : WrittenNumber} (read : number? t = some number)
    (isInt : number.isInt = true)
    : trimmedValue t
      = if number.whole.length ≤ maxIntegerDigits then .ok (.int number.toInt)
        else .error (.tooManyDigits number.whole.length) := by
  obtain ⟨nonempty, noTrue, noFalse⟩ := ne_of_number? read
  have noLiteral := literalBodyOf?_bare (bare_of_number? read)
  simp [trimmedValue, nonempty, noTrue, noFalse, noLiteral, read, isInt]

/-- Another number is read if it is not too large. -/
theorem trimmedValue_of_toDouble {t : Text} {number : WrittenNumber} {x : FiniteDouble}
    (read : number? t = some number) (notInt : number.isInt = false)
    (finite : number.toDouble = .finite x)
    : trimmedValue t = .ok (.float x) := by
  obtain ⟨nonempty, noTrue, noFalse⟩ := ne_of_number? read
  have noLiteral := literalBodyOf?_bare (bare_of_number? read)
  simp [trimmedValue, nonempty, noTrue, noFalse, noLiteral, read, notInt, finite]

/-- What a written form of a value is read as: the value, or nothing if the form is an integer with
too many digits.
-/
theorem trimmedValue_of_writesValue {t : Text} {v : Value} (writes : WritesValue t v)
    : trimmedValue t = .ok v
      ∨ ∃ number,
          number? t = some number
          ∧ v = .int number.toInt
          ∧ trimmedValue t = .error (.tooManyDigits number.whole.length) := by
  cases writes with
  | literal opens enclosed denotes =>
      refine .inl ?_
      simp [trimmedValue, literalBodyOf?_eq_some.mpr ⟨_, opens, enclosed, rfl⟩, denotes]
  | @integer sign digits isSign nonempty isDigits =>
      have whole : WritesNumber (sign ++ digits ++ pointed none ++ []) _ :=
        .mk isSign isDigits (by simp) (by simpa) rfl
      have read := number?_of_writesNumber whole
      simp only [pointed, List.append_nil] at read
      have value := trimmedValue_of_isInt read rfl
      split at value
      · exact .inl (by simpa [WrittenNumber.toInt, signed, Text.decimalValue] using value)
      · exact .inr ⟨_, read, by simp [WrittenNumber.toInt, signed, Text.decimalValue], value⟩
  | @decimal sign whole power fraction exponent x isSign wholeDigits fractionDigits some parts
      isPower finite =>
      obtain ⟨ends, read, rfl⟩ := exponent?_of_power isPower
      refine .inl (trimmedValue_of_toDouble
        (number?_of_writesNumber (.mk isSign wholeDigits fractionDigits some read)) ?_ ?_)
      · rw [Ne, ← exponent?_eq_none_iff read] at parts
        cases fraction <;> cases ends <;> simp_all [WrittenNumber.isInt]
      · rw [toDouble_eq]
        cases fraction with
        | none => simpa [Text.decimalValue] using finite
        | some digits =>
            have length := Text.length_filterMap_digit? (fractionDigits digits rfl)
            simpa [Text.decimalValue, length] using finite
  | true => exact .inl (trimmedValue_bool true)
  | false => exact .inl (trimmedValue_bool false)
  | @reference r noTrue noFalse =>
      have same : (Value.reference r).reread = .reference r :=
        Value.reread_eq_self.mpr ⟨noTrue, noFalse⟩
      have short : (Value.reference r).Short := trivial
      exact .inl (same ▸ trimmedValue_scriptText short)

/-- A text writes one value at most. -/
theorem writesValue_unique {t : Text} {v w : Value} (first : WritesValue t v)
    (second : WritesValue t w)
    : v = w := by
  rcases trimmedValue_of_writesValue first with read | ⟨number, isNumber, rfl, read⟩ <;>
    rcases trimmedValue_of_writesValue second with read' | ⟨number', isNumber', rfl, read'⟩
  · exact Except.ok.inj (read.symm.trans read')
  · cases read.symm.trans read'
  · cases read.symm.trans read'
  · rw [Option.some.inj (isNumber.symm.trans isNumber')]

end Recommender.Script
