import Recommender.Number.Power
import Recommender.Text.Digit

/-! Digits read back: a number that is written in decimal or in hexadecimal is the number that its
digits denote.
-/

namespace Recommender.Text

-----------------------------------------------------------------------------------------
-- Rows of digits
-----------------------------------------------------------------------------------------

/-- The digits of a number denote it in every base whose digits are read back one by one, by
induction on the number without its last digit.
-/
theorem mapM_toDigits {base : Nat} {digit? : CodePoint → Option Nat} (many : 1 < base)
    (reads : ∀ d < base, digit? (CodePoint.ofChar d.digitChar) = some d) (n : Nat)
    : ∃ digits,
        ((Nat.toDigits base n).map CodePoint.ofChar).mapM digit? = some digits
        ∧ digits.foldl (fun value digit => base * value + digit) 0 = n := by
  induction n using Nat.strongRecOn with
  | ind n ih =>
      rw [Nat.toDigits_eq_if many]
      by_cases small : n < base
      · exact ⟨[n], by simp [small, reads n small], by simp⟩
      · obtain ⟨digits, read, value⟩ := ih (n / base) (Nat.div_lt_self (by omega) many)
        have last := reads (n % base) (Nat.mod_lt n (by omega))
        refine ⟨digits ++ [n % base], ?_, ?_⟩
        · simp [small, read, last]
        · simp [value, Nat.div_add_mod]

/-- Where all members are read, each of them is, by list induction. -/
theorem isSome_of_mapM {α β : Type} {f : α → Option β} {l : List α} {read : List β}
    (all : l.mapM f = some read) {a : α} (member : a ∈ l)
    : (f a).isSome = true := by
  induction l generalizing read with
  | nil => cases member
  | cons b rest ih =>
      cases first : f b with
      | none => simp [first] at all
      | some x =>
          cases others : rest.mapM f with
          | none => simp [first, others] at all
          | some xs =>
              rcases List.mem_cons.mp member with rfl | later
              · simp [first]
              · exact ih others later

/-- Where every code point is read, passing over the others changes nothing, by list induction. -/
theorem filterMap_of_mapM {α β : Type} {f : α → Option β} {l : List α} {read : List β}
    (all : l.mapM f = some read)
    : l.filterMap f = read := by
  induction l generalizing read with
  | nil => simpa using all
  | cons a rest ih =>
      cases first : f a with
      | none => simp [first] at all
      | some b =>
          cases others : rest.mapM f with
          | none => simp [first, others] at all
          | some read' =>
              have same : b :: read' = read := by simpa [first, others] using all
              simp [first, ih others, same]

/-- Digits behind others move those up by as many places, by induction on the digits behind. -/
theorem ofDecimalDigits_append (front back : List Nat)
    : ofDecimalDigits (front ++ back)
      = ofDecimalDigits front * 10 ^ back.length + ofDecimalDigits back := by
  have shifted (start : Nat)
      : back.foldl (fun value digit => 10 * value + digit) start
        = start * 10 ^ back.length + ofDecimalDigits back := by
    unfold ofDecimalDigits
    induction back generalizing start with
    | nil => simp
    | cons digit rest ih =>
        simp only [List.foldl_cons, List.length_cons, ih (10 * start + digit), ih (10 * 0 + digit),
          Nat.pow_succ]
        grind
  rw [ofDecimalDigits, List.foldl_append]
  exact shifted _

/-- A row of zeros denotes zero, by induction on its length. -/
theorem ofDecimalDigits_zeros (count : Nat)
    : ofDecimalDigits (List.replicate count 0) = 0 := by
  induction count with
  | zero => rfl
  | succ count ih =>
      rw [List.replicate_succ', ofDecimalDigits_append, ih]
      rfl

-----------------------------------------------------------------------------------------
-- Decimal texts
-----------------------------------------------------------------------------------------

/-- An ASCII digit is read as its distance from zero: its range is the first one looked up. -/
theorem digit?_of_ascii {c : CodePoint} (low : 0x30 ≤ c.val) (high : c.val ≤ 0x39)
    : c.digit? = some (c.val - 0x30) := by
  obtain ⟨others, first⟩ : ∃ others, CodePoint.zeroDigits = 0x30 :: others := ⟨_, rfl⟩
  have below : c.val < 0x30 + 10 := by omega
  simp [CodePoint.digit?, first, low, below]

theorem digit?_digitChar : ∀ d < 10, (CodePoint.ofChar d.digitChar).digit? = some d := by
  decide

/-- A number in decimal is made of ASCII digits. -/
theorem ascii_of_mem_ofNat {n : Nat} {c : CodePoint} (member : c ∈ ofNat n)
    : 0x30 ≤ c.val ∧ c.val ≤ 0x39 := by
  obtain ⟨char, digit, rfl⟩ := List.mem_map.mp member
  have isDigit := Nat.isDigit_of_mem_toDigits (by decide) (by decide) digit
  simp only [Char.isDigit, Bool.and_eq_true, decide_eq_true_eq, ge_iff_le, UInt32.le_iff_toNat_le]
    at isDigit
  exact isDigit

theorem isDigit_of_mem_ofNat {n : Nat} {c : CodePoint} (member : c ∈ ofNat n)
    : c.isDigit = true := by
  have ascii := ascii_of_mem_ofNat member
  simp [CodePoint.isDigit, digit?_of_ascii ascii.1 ascii.2]

theorem ofNat_ne_nil (n : Nat) : ofNat n ≠ [] := by
  simp [ofNat]

/-- A number in decimal denotes the number. -/
theorem decimalValue_ofNat (n : Nat) : decimalValue (ofNat n) = n := by
  obtain ⟨digits, read, value⟩ := mapM_toDigits (by decide) digit?_digitChar n
  rw [decimalValue, ofNat, filterMap_of_mapM read]
  exact value

/-- Every digit of a row of digits is read. -/
theorem length_filterMap_digit? {t : Text} (digits : ∀ c ∈ t, c.isDigit = true)
    : (t.filterMap CodePoint.digit?).length = t.length := by
  induction t with
  | nil => rfl
  | cons c rest ih =>
      obtain ⟨d, read⟩ := Option.isSome_iff_exists.mp (digits c (by simp))
      simp [read, ih (fun c member => digits c (by simp [member]))]

theorem isEmpty_filterMap_digit? {t : Text} (digits : ∀ c ∈ t, c.isDigit = true)
    (nonempty : t ≠ [])
    : (t.filterMap CodePoint.digit?).isEmpty = false := by
  rw [List.isEmpty_eq_false_iff, ← List.length_pos_iff, length_filterMap_digit? digits]
  exact List.length_pos_iff.mpr nonempty

/-- Digits behind a text move its value up by as many places. -/
theorem decimalValue_append (front : Text) {back : Text}
    (digits : ∀ c ∈ back, c.isDigit = true)
    : decimalValue (front ++ back)
      = decimalValue front * 10 ^ back.length + decimalValue back := by
  rw [decimalValue, List.filterMap_append, ofDecimalDigits_append, length_filterMap_digit? digits]
  rfl

-----------------------------------------------------------------------------------------
-- Hexadecimal texts
-----------------------------------------------------------------------------------------

theorem hexDigit?_digitChar
    : ∀ d < 16, (CodePoint.ofChar d.digitChar).hexDigit? = some d := by
  decide

/-- A number in hexadecimal is made of hexadecimal digits. -/
theorem hexDigit?_of_mem_ofHex {width n : Nat} {c : CodePoint} (member : c ∈ ofHex width n)
    : (c.hexDigit?).isSome = true := by
  rcases List.mem_append.mp member with zero | digit
  · rw [List.eq_of_mem_replicate zero]
    decide
  · obtain ⟨digits, read, _⟩ := mapM_toDigits (by decide) hexDigit?_digitChar n
    exact isSome_of_mapM read digit

/-- A number that fits its width has as many digits in hexadecimal. -/
theorem length_ofHex {width n : Nat} (positive : 0 < width) (fits : n < 16 ^ width)
    : (ofHex width n).length = width := by
  have short := (Nat.length_toDigits_le_iff (by decide) positive).mpr fits
  simp [ofHex]
  omega

/-- A number in hexadecimal that fits its width is read back from as many digits. -/
theorem hexValue?_ofHex {width n : Nat} (positive : 0 < width) (fits : n < 16 ^ width)
    : hexValue? width (ofHex width n) = some n := by
  obtain ⟨digits, read, value⟩ := mapM_toDigits (by decide) hexDigit?_digitChar n
  have zeros (count : Nat)
      : (List.replicate count (CodePoint.ofDigit 0)).mapM CodePoint.hexDigit?
        = some (List.replicate count 0) := by
    induction count with
    | zero => rfl
    | succ count ih =>
        simp [List.replicate_succ, ih, show (CodePoint.ofDigit 0).hexDigit? = some 0 by decide]
  have nothing (count : Nat)
      : (List.replicate count 0).foldl (fun value digit => 16 * value + digit) 0 = 0 := by
    induction count with
    | zero => rfl
    | succ count ih => simp [List.replicate_succ, ih]
  rw [hexValue?, if_pos (length_ofHex positive fits)]
  simp [ofHex, List.mapM_append, zeros, read, nothing, value]

end Recommender.Text
