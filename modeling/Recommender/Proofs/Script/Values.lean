import Recommender.Proofs.Script.Literals
import Recommender.Proofs.Script.Numbers
import Recommender.Script.Value

/-! Values read back from the text that they are written as. Numbers and truth values are read as
they were. A reference whose name is the text of a truth value is read as that truth value, and a
text is read with the halves of its code points.
-/

namespace Recommender

namespace Value

/-- The value that is read where a value was written. -/
def reread : Value → Value
  | .reference r =>
    if r.name = "true" then .bool true
    else if r.name = "false" then .bool false
    else .reference r
  | .text t => .text (t.flatMap CodePoint.halves)
  | v => v

/-- A value that is told apart from all others when it is written: no reference with the name of a
truth value and no text with a code point beyond the basic plane.
-/
def Legible : Value → Prop
  | .reference r => r.name ≠ "true" ∧ r.name ≠ "false"
  | .text t => ∀ c ∈ t, c.val < 0x10000
  | _ => True

/-- A value that is no integer with more digits than may be read. -/
def Short : Value → Prop
  | .int n => (Text.ofNat n.natAbs).length ≤ maxIntegerDigits
  | _ => True

theorem false_ne_true : ("false" : Text) ≠ "true" := by
  decide

/-- Exactly the legible values are read as they were written. -/
theorem reread_eq_self {v : Value} : v.reread = v ↔ v.Legible := by
  cases v with
  | reference r =>
      by_cases true' : r.name = "true"
      · simp [reread, Legible, true']
      · by_cases false' : r.name = "false"
        · simp [reread, Legible, false', false_ne_true]
        · simp [reread, Legible, true', false']
  | text t => simp [reread, Legible, Script.flatMap_halves_eq_self]
  | bool | int | float => simp [reread, Legible]

/-- What is read back is written in the same way. -/
theorem scriptText_reread (v : Value) : v.reread.scriptText = v.scriptText := by
  cases v with
  | reference r =>
      by_cases true' : r.name = "true"
      · simp [reread, scriptText, true']
      · by_cases false' : r.name = "false"
        · simp [reread, scriptText, false', false_ne_true]
        · simp [reread, true', false']
  | text t => exact Script.literal_halves t
  | bool | int | float => rfl

end Value

namespace Script

-----------------------------------------------------------------------------------------
-- Bare values
-----------------------------------------------------------------------------------------

theorem bare_ofNat (n : Nat) : Text.Bare (Text.ofNat n) :=
  fun _ member => CodePoint.isBare_of_ascii (Or.inr (Text.ascii_of_mem_ofNat member))

theorem bare_zeros (count : Nat) : Text.Bare (List.replicate count (CodePoint.ofDigit 0)) := by
  intro c member
  rw [List.eq_of_mem_replicate member]
  exact CodePoint.isBare_of_ascii (by decide)

/-- A text of points, signs and ASCII letters and digits is bare. -/
theorem bare_of_all {t : Text}
    (each : t.all fun c =>
      c = CodePoint.dot || c = CodePoint.minus || c = CodePoint.plus || c.continuesIdentifier)
    : Text.Bare t := by
  intro c member
  have form := List.all_eq_true.mp each c member
  simp only [Bool.or_eq_true, decide_eq_true_eq] at form
  rcases form with ((rfl | rfl) | rfl) | continues
  · simp [CodePoint.isBare]
  · simp [CodePoint.isBare]
  · simp [CodePoint.isBare]
  · exact CodePoint.isBare_of_continuesIdentifier continues

theorem bare_signText (negative : Bool) : Text.Bare (signText negative) := by
  cases negative <;> exact bare_of_all (by decide)

theorem bare_ofInt (n : Int) : Text.Bare (Text.ofInt n) := by
  cases n with
  | ofNat size => exact bare_ofNat size
  | negSucc size =>
      have minus : Text.Bare [CodePoint.minus] := bare_of_all (by decide)
      exact minus.append (bare_ofNat (size + 1))

theorem bare_exponentText (exponent : Int) : Text.Bare (DecimalLayout.exponentText exponent) := by
  have sign : Text.Bare (Text.ofString (if exponent < 0 then "-" else "+")) := by
    split <;> exact bare_of_all (by decide)
  have letter : Text.Bare ("e" : Text) := bare_of_all (by decide)
  rw [DecimalLayout.exponentText]
  exact ((letter.append sign).append (bare_zeros _)).append (bare_ofNat _)

/-- A decimal in the layout of values is bare, by the place of its point. -/
theorem bare_layout (d : Decimal) : Text.Bare (DecimalLayout.value.text d) := by
  have digits := bare_ofNat d.reduced.digits
  have point : Text.Bare ("." : Text) := bare_of_all (by decide)
  have ending : Text.Bare DecimalLayout.value.wholeEnding := bare_of_all (by decide)
  rw [DecimalLayout.text]
  dsimp only
  generalize Text.ofNat d.reduced.digits = row at digits ⊢
  split
  · exact Text.Bare.append (bare_of_all (by decide)) ending
  · split
    · cases row with
      | nil => exact digits
      | cons first rest =>
          have head : Text.Bare [first] := fun c member =>
            digits c (List.mem_cons.mpr (Or.inl (List.mem_singleton.mp member)))
          have tail : Text.Bare rest := fun c member => digits c (List.mem_cons_of_mem _ member)
          cases rest with
          | nil => exact head.append (bare_exponentText _)
          | cons second others =>
              exact ((head.append point).append tail).append (bare_exponentText _)
    · split
      · exact (Text.Bare.append (bare_of_all (by decide)) (bare_zeros _)).append digits
      · split
        · have front : Text.Bare (row.take (row.length + d.reduced.exponent : Int).toNat) :=
            fun c member => digits c (List.mem_of_mem_take member)
          have back : Text.Bare (row.drop (row.length + d.reduced.exponent : Int).toNat) :=
            fun c member => digits c (List.mem_of_mem_drop member)
          exact (front.append point).append back
        · exact (digits.append (bare_zeros _)).append ending

/-- A value is written bare unless it is a text. -/
theorem bare_scriptText {v : Value} (noText : ∀ t, v ≠ .text t) : Text.Bare v.scriptText := by
  cases v with
  | reference r => exact Text.bare_of_isComponentName r.valid
  | bool b => cases b <;> exact bare_of_all (by decide)
  | int n => exact bare_ofInt n
  | float x => exact (bare_signText x.negative).append (bare_layout x.shortest)
  | text t => exact absurd rfl (noText t)

/-- Every value is written inert. -/
theorem inert_scriptText (v : Value) : Inert v.scriptText := by
  cases v with
  | text t => exact inert_literal t
  | reference | bool | int | float => exact inert_of_bare (bare_scriptText (by simp))

/-- No value is written with a blank at its ends. -/
theorem trimmed_scriptText (v : Value) : Text.Trimmed v.scriptText := by
  cases v with
  | text t =>
      have quote : CodePoint.doubleQuote.isBlank = false := by decide
      have last : (Text.literal t).getLast? = some CodePoint.doubleQuote := by
        rw [Text.literal, List.getLast?_append]
        rfl
      constructor
      · simp [Value.scriptText, Text.literal, quote]
      · simp [Value.scriptText, last, quote]
  | reference | bool | int | float => exact (bare_scriptText (by simp)).trimmed

-----------------------------------------------------------------------------------------
-- Which form a text has
-----------------------------------------------------------------------------------------

/-- A bare text is no literal. -/
theorem literalBodyOf?_bare {t : Text} (bare : Text.Bare t) : literalBodyOf? t = none := by
  have unquoted {quote : CodePoint} (isMark : quote.isMark = true) (rest : Text)
      : t ≠ quote :: rest := by
    rintro rfl
    exact CodePoint.ne_of_isBare (bare _ List.mem_cons_self) isMark rfl
  unfold literalBodyOf?
  split
  · exact absurd rfl (unquoted (by decide) _)
  · exact absurd rfl (unquoted (by decide) _)
  · rfl

/-- The text of a truth value is no number. -/
theorem number?_of_scriptBool (b : Bool) : number? (Value.bool b).scriptText = none := by
  cases b <;> rfl

/-- An ASCII code point outside the digits is no digit. -/
theorem isDigit_eq_false {c : CodePoint} (ascii : c.val < 0x80)
    (outside : ¬ (0x30 ≤ c.val ∧ c.val ≤ 0x39))
    : c.isDigit = false := by
  have beyond : ∀ first ∈ CodePoint.zeroDigits, first = 0x30 ∨ 0x80 ≤ first := by decide
  have none : CodePoint.zeroDigits.find? (fun first => first ≤ c.val && c.val < first + 10)
      = none := by
    rw [List.find?_eq_none]
    intro first member
    have place := beyond first member
    simp only [Bool.and_eq_true, decide_eq_true_eq]
    omega
  simp [CodePoint.isDigit, CodePoint.digit?, none]

/-- A text that begins with no digit, no sign and no point is no number. -/
theorem number?_eq_none {c : CodePoint} {rest : Text} (noDigit : c.isDigit = false)
    (noMinus : c ≠ CodePoint.minus) (noPlus : c ≠ CodePoint.plus) (noDot : c ≠ CodePoint.dot)
    : number? (c :: rest) = none := by
  have unsigned : spanSign (c :: rest) = (false, c :: rest) := by
    unfold spanSign
    split
    · next same => exact absurd (List.cons.inj same).1 noMinus
    · next same => exact absurd (List.cons.inj same).1 noPlus
    · rfl
  have noDigits : spanDigits (c :: rest) = ([], c :: rest) := by
    simp [spanDigits, noDigit]
  simp only [number?, unsigned, noDigits]
  split
  · next same => exact absurd (List.cons.inj same).1 noDot
  · rfl

/-- A component name is no number: no segment begins with a digit, a sign or a point. -/
theorem number?_of_isComponentName {t : Text} (name : t.isComponentName = true)
    : number? t = none := by
  cases t with
  | nil => cases name
  | cons c rest =>
      by_cases dot : c = CodePoint.dot
      · rw [Text.isComponentName, Text.splitOn, if_pos dot] at name
        cases name
      · obtain ⟨first, others, cut⟩ := Text.splitOn_cons dot rest
        rw [Text.isComponentName, cut, List.all_cons, Text.isNameSegment] at name
        simp only [CodePoint.beginsName, CodePoint.beginsIdentifier, CodePoint.isAsciiLetter,
          Bool.and_eq_true, Bool.or_eq_true, decide_eq_true_eq] at name
        have begins := name.1.1
        have ascii : c.val < 0x80 ∧ ¬ (0x30 ≤ c.val ∧ c.val ≤ 0x39)
            ∧ c ≠ CodePoint.minus ∧ c ≠ CodePoint.plus := by
          rcases begins with (letter | rfl) | rfl
          · refine ⟨by omega, by omega, ?_, ?_⟩
            · rintro rfl
              revert letter
              decide
            · rintro rfl
              revert letter
              decide
          · decide
          · decide
        obtain ⟨low, outside, noMinus, noPlus⟩ := ascii
        exact number?_eq_none (isDigit_eq_false low outside) noMinus noPlus dot

/-- A text that is a number is neither empty nor the text of a truth value. -/
theorem ne_of_number? {t : Text} {written : WrittenNumber} (read : number? t = some written)
    : t ≠ [] ∧ t ≠ "true" ∧ t ≠ "false" := by
  refine ⟨?_, ?_, ?_⟩
  · rintro rfl
    cases read
  · rintro rfl
    have none := number?_of_scriptBool true
    rw [Value.scriptText, if_pos rfl, read] at none
    cases none
  · rintro rfl
    have none := number?_of_scriptBool false
    rw [Value.scriptText, if_neg (by simp), read] at none
    cases none

/-- Every value is written with at least one code point. -/
theorem scriptText_ne_nil (v : Value) : v.scriptText ≠ [] := by
  cases v with
  | reference r =>
      intro empty
      have valid := r.valid
      rw [show r.name = [] from empty] at valid
      cases valid
  | bool b => cases b <;> decide
  | int n =>
      obtain ⟨_, read, _⟩ := number?_ofInt n
      exact (ne_of_number? read).1
  | float x =>
      obtain ⟨_, read, _⟩ := readsAs_double x
      exact (ne_of_number? read).1
  | text t => simp [Value.scriptText, Text.literal]

-----------------------------------------------------------------------------------------
-- Reading back
-----------------------------------------------------------------------------------------

theorem trimmedValue_bool (b : Bool)
    : trimmedValue (Value.bool b).scriptText = .ok (.bool b) := by
  cases b <;> rfl

/-- The text of a value is read, and as what it is read back as. Witness: the form of the text
decides which reader takes it, value by value.
-/
theorem trimmedValue_scriptText {v : Value} (short : v.Short)
    : trimmedValue v.scriptText = .ok v.reread := by
  cases v with
  | text t =>
      have nonempty : (Text.literal t).isEmpty = false := by simp [Text.literal]
      simp [trimmedValue, Value.scriptText, nonempty, literalBodyOf?_literal, denoted?_escaped,
        Value.reread]
  | bool b => exact trimmedValue_bool b
  | int n =>
      obtain ⟨written, read, whole, length, same⟩ := number?_ofInt n
      obtain ⟨nonempty, noTrue, noFalse⟩ := ne_of_number? read
      have bare := literalBodyOf?_bare (bare_ofInt n)
      simp only [Value.Short] at short
      simp [trimmedValue, Value.scriptText, nonempty, bare, noTrue, noFalse, read, whole, length,
        short, same, Value.reread]
  | float x =>
      obtain ⟨written, read, notWhole, same⟩ := readsAs_double x
      obtain ⟨nonempty, noTrue, noFalse⟩ := ne_of_number? read
      have bare := literalBodyOf?_bare (bare_scriptText (v := .float x) (by simp))
      simp only [Value.scriptText] at bare
      simp [trimmedValue, Value.scriptText, nonempty, bare, noTrue, noFalse, read, notWhole, same,
        Value.reread]
  | reference r =>
      have bare := literalBodyOf?_bare (Text.bare_of_isComponentName r.valid)
      have number := number?_of_isComponentName r.valid
      have nonempty : r.name ≠ [] := scriptText_ne_nil (.reference r)
      have named : Reference.ofText? r.name = some r := by simp [Reference.ofText?, r.valid]
      by_cases true' : r.name = "true"
      · simpa [Value.scriptText, true', Value.reread] using trimmedValue_bool true
      · by_cases false' : r.name = "false"
        · simpa [Value.scriptText, false', Value.false_ne_true, Value.reread]
            using trimmedValue_bool false
        · simp [trimmedValue, Value.scriptText, nonempty, bare, true', false', number, named,
            Value.reread]

/-- The blank in front of a value does not matter. -/
theorem trim_scriptText (v : Value)
    : Text.trim (CodePoint.space :: v.scriptText) = v.scriptText := by
  have blank : CodePoint.space.isBlank = true := by decide
  have trimmed := (trimmed_scriptText v).trim_blanks (scriptText_ne_nil v) [CodePoint.space] []
    (by simp [blank]) (by simp)
  rwa [List.append_nil] at trimmed

theorem value_scriptText {v : Value} (short : v.Short)
    : value (CodePoint.space :: v.scriptText) = .ok v.reread := by
  rw [value, trim_scriptText, trimmedValue_scriptText short]

end Script

end Recommender
