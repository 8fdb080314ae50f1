import Mathlib.Data.Nat.Init
import Recommender.Proofs.Number.Rounding
import Recommender.Proofs.Text.Digits
import Recommender.Script.Number

/-! Written numbers read back. An integer in decimal is read as the integer; a decimal in the layout
of values is read as a number with the same size, wherever the layout puts its digits.
-/

namespace Recommender.Script

-----------------------------------------------------------------------------------------
-- The parts of a written number
-----------------------------------------------------------------------------------------

/-- A text that does not go on with a digit. -/
def EndsDigits (t : Text) : Prop :=
  ∀ c ∈ t.head?, c.isDigit = false

theorem endsDigits_nil : EndsDigits [] := by
  simp [EndsDigits]

theorem endsDigits_cons {c : CodePoint} (rest : Text) (other : c.isDigit = false)
    : EndsDigits (c :: rest) := by
  simpa [EndsDigits] using other

/-- A row of digits is taken as a whole in front of a text that does not go on with a digit. -/
theorem spanDigits_append {front back : Text} (digits : ∀ c ∈ front, c.isDigit = true)
    (ends : EndsDigits back)
    : spanDigits (front ++ back) = (front.filterMap CodePoint.digit?, back) := by
  have none : back.takeWhile CodePoint.isDigit = [] ∧ back.dropWhile CodePoint.isDigit = back := by
    cases back with
    | nil => exact ⟨rfl, rfl⟩
    | cons c rest =>
        have other : c.isDigit = false := ends c rfl
        simp [other]
  rw [spanDigits, List.takeWhile_append_of_pos digits, List.dropWhile_append_of_pos digits, none.1,
    none.2, List.append_nil]

/-- A sign is taken off a text that has none of its own. -/
theorem spanSign_signText (negative : Bool) {rest : Text}
    (unsigned : ∀ c ∈ rest.head?, c ≠ CodePoint.minus ∧ c ≠ CodePoint.plus)
    : spanSign (signText negative ++ rest) = (negative, rest) := by
  cases negative with
  | true => rfl
  | false =>
      cases rest with
      | nil => rfl
      | cons c rest =>
          obtain ⟨noMinus, noPlus⟩ := unsigned c rfl
          have plain : signText false ++ c :: rest = c :: rest := rfl
          rw [plain, spanSign]
          · exact fun _ same => noMinus (List.cons.inj same).1
          · exact fun _ same => noPlus (List.cons.inj same).1

theorem spanSign_minus (t : Text) : spanSign (CodePoint.minus :: t) = (true, t) := rfl

theorem spanSign_plus (t : Text) : spanSign (CodePoint.plus :: t) = (false, t) := rfl

/-- A digit is no sign. -/
theorem unsigned_of_digits {t : Text} (digits : ∀ c ∈ t, c.isDigit = true) {back : Text}
    (nonempty : t ≠ [])
    : ∀ c ∈ (t ++ back).head?, c ≠ CodePoint.minus ∧ c ≠ CodePoint.plus := by
  cases t with
  | nil => exact absurd rfl nonempty
  | cons first rest =>
      intro c head
      have same : first = c := by simpa using head
      have digit : c.isDigit = true := same ▸ digits first (by simp)
      exact ⟨fun h => absurd (h ▸ digit) (by decide), fun h => absurd (h ▸ digit) (by decide)⟩

/-- What an exponent begins with ends a row of digits and is no point. -/
theorem exponent?_head {t : Text} {exponent : Option (Bool × List Nat)}
    (read : exponent? t = some exponent)
    : EndsDigits t ∧ ∀ c ∈ t.head?, c ≠ CodePoint.dot := by
  cases t with
  | nil => exact ⟨endsDigits_nil, by simp⟩
  | cons c rest =>
      have mark : c = 0x65 ∨ c = 0x45 := by
        refine Decidable.byContradiction fun other => ?_
        simp [exponent?, other] at read
      refine ⟨endsDigits_cons rest ?_, ?_⟩
      · rcases mark with rfl | rfl <;> decide
      · intro c' head
        have same : c = c' := by simpa using head
        subst same
        rcases mark with rfl | rfl <;> decide

/-- Digits without a point are read with the exponent behind them. -/
theorem number?_whole (negative : Bool) {whole tail : Text} {exponent : Option (Bool × List Nat)}
    (digits : ∀ c ∈ whole, c.isDigit = true) (nonempty : whole ≠ [])
    (read : exponent? tail = some exponent)
    : number? (signText negative ++ whole ++ tail)
      = some ⟨negative, whole.filterMap CodePoint.digit?, none, exponent⟩ := by
  obtain ⟨ends, noPoint⟩ := exponent?_head read
  have some := Text.isEmpty_filterMap_digit? digits nonempty
  simp only [List.append_assoc, number?,
    spanSign_signText negative (unsigned_of_digits digits nonempty),
    spanDigits_append digits ends]
  split
  · next point => exact absurd rfl (noPoint CodePoint.dot (by simp))
  · simp [some, read]

/-- Digits on both sides of a point are read with the exponent behind them. -/
theorem number?_pointed (negative : Bool) {whole fraction tail : Text}
    {exponent : Option (Bool × List Nat)}
    (wholeDigits : ∀ c ∈ whole, c.isDigit = true) (nonempty : whole ≠ [])
    (fractionDigits : ∀ c ∈ fraction, c.isDigit = true)
    (read : exponent? tail = some exponent)
    : number? (signText negative ++ whole ++ CodePoint.dot :: (fraction ++ tail))
      = some
          ⟨negative, whole.filterMap CodePoint.digit?,
            some (fraction.filterMap CodePoint.digit?), exponent⟩ := by
  obtain ⟨ends, _⟩ := exponent?_head read
  have some := Text.isEmpty_filterMap_digit? wholeDigits nonempty
  have point : EndsDigits (CodePoint.dot :: (fraction ++ tail)) := endsDigits_cons _ (by decide)
  simp only [List.append_assoc, number?,
    spanSign_signText negative (unsigned_of_digits wholeDigits nonempty),
    spanDigits_append wholeDigits point]
  split
  · next rest same =>
      obtain rfl := (List.cons.inj same).2
      simp [spanDigits_append fractionDigits ends, some, read]
  · next other => exact absurd rfl (other (fraction ++ tail))

-----------------------------------------------------------------------------------------
-- Integers
-----------------------------------------------------------------------------------------

/-- An integer in decimal reads as the integer, with as many digits as its size has. -/
theorem number?_ofInt (n : Int)
    : ∃ written,
        number? (Text.ofInt n) = some written
        ∧ written.isInt = true
        ∧ written.whole.length = (Text.ofNat n.natAbs).length
        ∧ written.toInt = n := by
  have form : Text.ofInt n = signText (decide (n < 0)) ++ Text.ofNat n.natAbs ++ [] := by
    cases n with
    | ofNat size =>
        simp [Text.ofInt, signText]
        rfl
    | negSucc size =>
        simp [Text.ofInt, signText]
        rfl
  have read := number?_whole (decide (n < 0)) (fun _ => Text.isDigit_of_mem_ofNat)
    (Text.ofNat_ne_nil n.natAbs) (show exponent? [] = some none from rfl)
  rw [← form] at read
  refine ⟨_, read, rfl, Text.length_filterMap_digit? (fun _ => Text.isDigit_of_mem_ofNat), ?_⟩
  have size := Text.decimalValue_ofNat n.natAbs
  simp only [Text.decimalValue] at size
  simp only [WrittenNumber.toInt, size, decide_eq_true_eq]
  omega

-----------------------------------------------------------------------------------------
-- Numbers with a point or an exponent
-----------------------------------------------------------------------------------------

/-- A text that is written as a number other than an integer and denotes a floating point number. -/
def ReadsAs (t : Text) (x : Double) : Prop :=
  ∃ written, number? t = some written ∧ written.isInt = false ∧ written.toDouble = x

/-- Digits on both sides of a point denote all of them, moved down by those behind the point. -/
theorem readsAs_pointed (negative : Bool) {whole fraction : Text}
    (wholeDigits : ∀ c ∈ whole, c.isDigit = true) (nonempty : whole ≠ [])
    (fractionDigits : ∀ c ∈ fraction, c.isDigit = true)
    : ReadsAs (signText negative ++ whole ++ CodePoint.dot :: fraction)
        (Double.ofDecimal negative (Text.decimalValue (whole ++ fraction)) (-fraction.length)) := by
  have read := number?_pointed negative wholeDigits nonempty fractionDigits
    (show exponent? [] = some none from rfl)
  rw [List.append_nil] at read
  refine ⟨_, read, rfl, ?_⟩
  simp [WrittenNumber.toDouble, Text.decimalValue, Text.length_filterMap_digit? fractionDigits]

/-- Zeros in front of digits change nothing. -/
theorem decimalValue_zeros (count : Nat) {row : Text} (digits : ∀ c ∈ row, c.isDigit = true)
    : Text.decimalValue (List.replicate count (CodePoint.ofDigit 0) ++ row)
      = Text.decimalValue row := by
  have zero : (CodePoint.ofDigit 0).digit? = some 0 := by decide
  have none : Text.decimalValue (List.replicate count (CodePoint.ofDigit 0)) = 0 := by
    rw [Text.decimalValue, List.filterMap_replicate_of_some zero, Text.ofDecimalDigits_zeros]
  rw [Text.decimalValue_append _ digits, none]
  omega

theorem isDigit_of_mem_zeros (count : Nat) {c : CodePoint}
    (member : c ∈ List.replicate count (CodePoint.ofDigit 0))
    : c.isDigit = true := by
  rw [List.eq_of_mem_replicate member]
  decide

/-- The text of an exponent reads as the exponent. -/
theorem exponent?_exponentText (exponent : Int)
    : ∃ digits,
        exponent? (DecimalLayout.exponentText exponent)
          = some (some (decide (exponent < 0), digits))
        ∧ Text.ofDecimalDigits digits = exponent.natAbs := by
  let row : Text :=
    List.replicate (2 - (Text.ofNat exponent.natAbs).length) (CodePoint.ofDigit 0)
      ++ Text.ofNat exponent.natAbs
  have digits : ∀ c ∈ row, c.isDigit = true := by
    intro c member
    rcases List.mem_append.mp member with zero | digit
    · exact isDigit_of_mem_zeros _ zero
    · exact Text.isDigit_of_mem_ofNat digit
  have nonempty : row ≠ [] := by
    intro empty
    exact Text.ofNat_ne_nil exponent.natAbs (List.append_eq_nil_iff.mp empty).2
  have some := Text.isEmpty_filterMap_digit? digits nonempty
  have span := spanDigits_append digits endsDigits_nil
  rw [List.append_nil] at span
  have value : Text.decimalValue row = exponent.natAbs := by
    rw [decimalValue_zeros _ (fun _ => Text.isDigit_of_mem_ofNat), Text.decimalValue_ofNat]
  refine ⟨row.filterMap CodePoint.digit?, ?_, value⟩
  by_cases negative : exponent < 0
  · have form : DecimalLayout.exponentText exponent = 0x65 :: CodePoint.minus :: row := by
      simp [DecimalLayout.exponentText, negative, row]
      rfl
    simp [form, exponent?, spanSign_minus, span, some, negative]
  · have form : DecimalLayout.exponentText exponent = 0x65 :: CodePoint.plus :: row := by
      simp [DecimalLayout.exponentText, negative, row]
      rfl
    simp [form, exponent?, spanSign_plus, span, some, negative]

/-- Digits with an exponent denote all of them, moved by the exponent. -/
theorem readsAs_scientific (negative : Bool) {digit : CodePoint} {fraction : Text} (exponent : Int)
    (isDigit : digit.isDigit = true) (fractionDigits : ∀ c ∈ fraction, c.isDigit = true)
    : ReadsAs
        (signText negative
          ++ ((if fraction = [] then [digit] else [digit] ++ "." ++ fraction)
            ++ DecimalLayout.exponentText exponent))
        (Double.ofDecimal negative (Text.decimalValue (digit :: fraction))
          (exponent - fraction.length)) := by
  obtain ⟨digits, read, value⟩ := exponent?_exponentText exponent
  have wholeDigits : ∀ c ∈ [digit], c.isDigit = true := by simpa using isDigit
  have size : (if decide (exponent < 0) then -(exponent.natAbs : Int) else exponent.natAbs)
      = exponent := by
    simp only [decide_eq_true_eq]
    omega
  by_cases none : fraction = []
  · subst none
    have written := number?_whole negative wholeDigits (by simp) read
    refine ⟨_, by simpa [List.append_assoc] using written, rfl, ?_⟩
    simp only [WrittenNumber.toDouble, value, size]
    simp [Text.decimalValue]
  · have written := number?_pointed negative wholeDigits (by simp) fractionDigits read
    have point : (Text.ofString "." : Text) = [CodePoint.dot] := rfl
    refine ⟨_, by simpa [none, point, List.append_assoc] using written, rfl, ?_⟩
    simp only [WrittenNumber.toDouble, value, size]
    simp [Text.decimalValue, ← List.filterMap_append, Text.length_filterMap_digit? fractionDigits]

/-- Digits behind a point and zeros denote the digits, moved down past both. -/
theorem readsAs_below (negative : Bool) {row : Text} (zeros : Nat)
    (digits : ∀ c ∈ row, c.isDigit = true)
    : ReadsAs
        (signText negative ++ ("0." ++ List.replicate zeros (CodePoint.ofDigit 0) ++ row))
        (Double.ofDecimal negative (Text.decimalValue row) (-(zeros + row.length : Nat))) := by
  have fraction : ∀ c ∈ List.replicate zeros (CodePoint.ofDigit 0) ++ row, c.isDigit = true := by
    intro c member
    rcases List.mem_append.mp member with member | member
    · exact isDigit_of_mem_zeros _ member
    · exact digits c member
  have reads := readsAs_pointed negative (fun _ => isDigit_of_mem_zeros 1) (by simp) fraction
  rw [decimalValue_zeros 1 fraction, decimalValue_zeros zeros digits, List.length_append,
    List.length_replicate] at reads
  have form : (Text.ofString "0." : Text) = [CodePoint.ofDigit 0, CodePoint.dot] := rfl
  simpa [form] using reads

/-- Digits with a point among them denote the digits, moved down by those behind the point. -/
theorem readsAs_inside (negative : Bool) {row : Text} (place : Nat) (positive : 0 < place)
    (inside : place < row.length) (digits : ∀ c ∈ row, c.isDigit = true)
    : ReadsAs (signText negative ++ (row.take place ++ "." ++ row.drop place))
        (Double.ofDecimal negative (Text.decimalValue row) (-(row.length - place : Nat))) := by
  have whole : ∀ c ∈ row.take place, c.isDigit = true :=
    fun c member => digits c (List.mem_of_mem_take member)
  have fraction : ∀ c ∈ row.drop place, c.isDigit = true :=
    fun c member => digits c (List.mem_of_mem_drop member)
  have nonempty : row.take place ≠ [] := by
    rw [← List.length_pos_iff, List.length_take]
    omega
  have reads := readsAs_pointed negative whole nonempty fraction
  rw [List.take_append_drop, List.length_drop] at reads
  have form : (Text.ofString "." : Text) = [CodePoint.dot] := rfl
  simpa [form] using reads

/-- Digits with zeros and a point behind them denote the digits, moved up past the zeros. -/
theorem readsAs_whole (negative : Bool) {row : Text} (zeros : Nat) (nonempty : row ≠ [])
    (digits : ∀ c ∈ row, c.isDigit = true)
    : ReadsAs
        (signText negative ++ (row ++ List.replicate zeros (CodePoint.ofDigit 0) ++ ".0"))
        (Double.ofDecimal negative (Text.decimalValue row) zeros) := by
  have whole : ∀ c ∈ row ++ List.replicate zeros (CodePoint.ofDigit 0), c.isDigit = true := by
    intro c member
    rcases List.mem_append.mp member with member | member
    · exact digits c member
    · exact isDigit_of_mem_zeros _ member
  have zero (count : Nat) : Text.decimalValue (List.replicate count (CodePoint.ofDigit 0)) = 0 := by
    have none : Text.decimalValue (List.replicate count (CodePoint.ofDigit 0) ++ []) = 0 :=
      decimalValue_zeros count (by simp)
    rw [List.append_nil] at none
    exact none
  have value
      : Text.decimalValue
          (row ++ List.replicate zeros (CodePoint.ofDigit 0)
            ++ List.replicate 1 (CodePoint.ofDigit 0))
        = Text.decimalValue row * 10 ^ (zeros + 1) := by
    rw [List.append_assoc, List.replicate_append_replicate,
      Text.decimalValue_append _ (fun _ => isDigit_of_mem_zeros _), zero, List.length_replicate,
      Nat.add_zero]
  have reads := readsAs_pointed negative whole (by simp [nonempty])
    (fun _ => isDigit_of_mem_zeros 1)
  have shifted := Double.ofDecimal_shift negative (Text.decimalValue row) (zeros + 1) zeros
  have places : (zeros : Int) - (zeros + 1 : Nat) = -(1 : Nat) := by omega
  rw [places] at shifted
  rw [value, List.length_replicate, shifted] at reads
  have form : (Text.ofString ".0" : Text) = [CodePoint.dot, CodePoint.ofDigit 0] := rfl
  simpa [form] using reads

/-- A decimal in the layout of values denotes the decimal, by the place of its point. -/
theorem readsAs_text (negative : Bool) (d : Decimal)
    : ReadsAs (signText negative ++ DecimalLayout.value.text d)
        (Double.ofDecimal negative d.digits d.exponent) := by
  have digits : ∀ c ∈ Text.ofNat d.reduced.digits, c.isDigit = true :=
    fun _ => Text.isDigit_of_mem_ofNat
  have nonempty := Text.ofNat_ne_nil d.reduced.digits
  have value := Text.decimalValue_ofNat d.reduced.digits
  have reduced := Decimal.ofDecimal_reduced negative d
  rw [DecimalLayout.text]
  dsimp only
  by_cases zero : d.digits = 0
  · have reads := readsAs_whole negative 0 (by simp)
      (fun _ => isDigit_of_mem_zeros 1)
    have same (exponent : Int)
        : Double.ofDecimal negative 0 exponent = .finite { FiniteDouble.zero with negative } := rfl
    rw [if_pos zero, zero, same]
    exact reads
  generalize Text.ofNat d.reduced.digits = row at digits nonempty value ⊢
  rw [if_neg zero, ← reduced, ← value]
  generalize d.reduced.exponent = exponent
  by_cases far
      : row.length + exponent ≤ -4 || DecimalLayout.value.positionalBelow < row.length + exponent
  · rw [if_pos far]
    cases row with
    | nil => exact absurd rfl nonempty
    | cons first rest =>
        have others : ∀ c ∈ rest, c.isDigit = true := fun c member => digits c (by simp [member])
        have reads := readsAs_scientific negative ((first :: rest : Text).length + exponent - 1)
          (digits first (by simp)) others
        have places : ((first :: rest : Text).length : Int) + exponent - 1 - rest.length
            = exponent := by
          simp only [List.length_cons]
          omega
        rw [places] at reads
        cases rest with
        | nil => simpa using reads
        | cons second rest => simpa using reads
  rw [if_neg far]
  by_cases small : row.length + exponent ≤ 0
  · have reads := readsAs_below negative (-(row.length + exponent)).toNat digits
    have places : (-(((-(row.length + exponent)).toNat + row.length : Nat) : Int)) = exponent := by
      omega
    rw [if_pos small]
    rwa [places] at reads
  rw [if_neg small]
  by_cases inside : row.length + exponent < row.length
  · have reads := readsAs_inside negative (row.length + exponent).toNat (by omega)
      (by omega) digits
    have places : (-((row.length - (row.length + exponent).toNat : Nat) : Int)) = exponent := by
      omega
    rw [if_pos inside]
    rwa [places] at reads
  · have reads := readsAs_whole negative (row.length + exponent - row.length).toNat nonempty digits
    have places : (((row.length + exponent - row.length).toNat : Nat) : Int) = exponent := by
      omega
    rw [if_neg inside]
    rw [places] at reads
    exact reads

/-- A finite number reads as itself: its shortest decimal does. -/
theorem readsAs_double (x : FiniteDouble) : ReadsAs x.text (.finite x) := by
  have reads := readsAs_text x.negative x.shortest
  have read := x.isReadFrom_shortest
  rw [FiniteDouble.isReadFrom, beq_iff_eq] at read
  rwa [read] at reads

end Recommender.Script
