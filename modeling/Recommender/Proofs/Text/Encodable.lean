import Recommender.Proofs.Text.Classes
import Recommender.Script.Value
import Recommender.Text.Utf8

/-! Texts that have an encoding: those without surrogates. Whatever is written out of characters,
numbers, names and paths has one, and so has every text as messages show it, in which a surrogate
stands in hexadecimal. Only a text that is repeated as it was given can lack one.
-/

namespace Recommender

namespace CodePoint

/-- No character is a surrogate. -/
theorem isSurrogate_ofChar (c : Char) : (ofChar c).isSurrogate = false := by
  have valid := c.valid
  simp only [UInt32.isValidChar, Nat.isValidChar] at valid
  have number : (ofChar c).val = c.val.toNat := rfl
  simp only [isSurrogate, number, Bool.and_eq_false_iff, decide_eq_false_iff_not]
  omega

/-- The range of the surrogates. -/
def surrogateRanges : List (Nat × Nat) :=
  [(0xD800, 0xDFFF)]

theorem isSurrogate_eq (c : CodePoint) : c.isSurrogate = inRanges surrogateRanges c := by
  rw [isSurrogate, inRanges, surrogateRanges, List.any_cons, List.any_nil, Bool.or_false]

theorem alphanumericRanges_apart_surrogates
    : apart alphanumericRanges surrogateRanges = true := by
  decide +kernel

/-- What names, paths and numbers are made of is no surrogate. -/
theorem isSurrogate_of_isBare {c : CodePoint} (bare : c.isBare = true)
    : c.isSurrogate = false := by
  simp only [isBare, continuesName, Bool.or_eq_true, decide_eq_true_eq] at bare
  rcases bare with ((((alphanumeric | rfl) | rfl) | rfl) | rfl) | rfl
  · rw [isSurrogate_eq]
    exact not_inRanges_of_apart alphanumericRanges_apart_surrogates alphanumeric
  all_goals decide

/-- Surrogates are not printable. -/
theorem isSurrogate_of_isPrintable {c : CodePoint} (printable : c.isPrintable = true)
    : c.isSurrogate = false := by
  have covered : (0xD7FC, 0xF8FF) ∈ unprintableRanges := by decide +kernel
  cases surrogate : c.isSurrogate with
  | false => rfl
  | true =>
      simp only [isSurrogate, Bool.and_eq_true, decide_eq_true_eq] at surrogate
      have unprintable : inRanges unprintableRanges c = true := by
        refine List.any_eq_true.mpr ⟨_, covered, ?_⟩
        simp only [Bool.and_eq_true, decide_eq_true_eq]
        omega
      have high : ¬ c.val ≤ 0x7E := by omega
      simp [isPrintable, unprintable, high] at printable

end CodePoint

namespace Text

/-- A text without surrogates. -/
def Encodable (t : Text) : Prop :=
  ∀ c ∈ t, c.isSurrogate = false

instance (t : Text) : Decidable t.Encodable :=
  inferInstanceAs (Decidable (∀ c ∈ t, c.isSurrogate = false))

/-- No surrogates are found in a text that holds none, wherever it stands, by list induction. -/
theorem firstSurrogates_eq_none {t : Text} (position : Nat)
    : Utf8.firstSurrogates position t = none ↔ t.Encodable := by
  induction t generalizing position with
  | nil => simp [Utf8.firstSurrogates, Encodable]
  | cons c rest ih =>
      rw [Utf8.firstSurrogates, Encodable, List.forall_mem_cons]
      cases c.isSurrogate with
      | true => simp
      | false => simp [ih (position + 1), Encodable]

theorem encode_of_encodable {t : Text} (encodable : t.Encodable)
    : Utf8.encode t = .ok (t.flatMap Utf8.encodeOne) := by
  rw [Utf8.encode, (firstSurrogates_eq_none 0).mpr encodable]

-----------------------------------------------------------------------------------------
-- Texts put together
-----------------------------------------------------------------------------------------

@[simp]
theorem encodable_nil : Encodable [] :=
  fun _ member => absurd member List.not_mem_nil

@[simp]
theorem encodable_cons {c : CodePoint} {t : Text}
    : Encodable (c :: t) ↔ c.isSurrogate = false ∧ t.Encodable :=
  List.forall_mem_cons

@[simp]
theorem encodable_append {s t : Text} : Encodable (s ++ t) ↔ s.Encodable ∧ t.Encodable :=
  List.forall_mem_append

@[simp]
theorem encodable_flatMap {t : Text} {f : CodePoint → Text}
    : Encodable (t.flatMap f) ↔ ∀ c ∈ t, (f c).Encodable := by
  simp only [Encodable, List.mem_flatMap, forall_exists_index, and_imp]
  exact ⟨fun all c member d inside => all d c member inside,
    fun all d c member inside => all c member d inside⟩

/-- Texts put together by a separator, by list induction. -/
theorem encodable_join {separator : Text} (between : separator.Encodable) {parts : List Text}
    : Encodable (join separator parts) ↔ ∀ t ∈ parts, t.Encodable := by
  rw [join]
  induction parts with
  | nil => simp
  | cons first rest ih =>
      cases rest with
      | nil => simp
      | cons second others =>
          rw [List.intercalate_cons_cons, encodable_append, encodable_append, ih,
            List.forall_mem_cons]
          simp [between]

theorem Encodable.of_subset {s t : Text} (encodable : t.Encodable) (inside : s ⊆ t)
    : s.Encodable :=
  fun c member => encodable c (inside member)

-----------------------------------------------------------------------------------------
-- Texts that are written
-----------------------------------------------------------------------------------------

@[simp]
theorem encodable_map_ofChar (characters : List Char)
    : Encodable (characters.map CodePoint.ofChar) := by
  intro c member
  obtain ⟨character, _, rfl⟩ := List.mem_map.mp member
  exact CodePoint.isSurrogate_ofChar character

@[simp]
theorem encodable_ofString (s : String) : Encodable (ofString s) :=
  encodable_map_ofChar s.toList

@[simp]
theorem encodable_ofNat (n : Nat) : Encodable (ofNat n) :=
  encodable_map_ofChar _

@[simp]
theorem encodable_ofInt (n : Int) : Encodable (ofInt n) := by
  cases n with
  | ofNat size => exact encodable_ofNat size
  | negSucc size => exact encodable_cons.mpr ⟨by decide, encodable_ofNat (size + 1)⟩

@[simp]
theorem encodable_zeros (count : Nat)
    : Encodable (List.replicate count (CodePoint.ofDigit 0)) := by
  intro c member
  rw [List.eq_of_mem_replicate member]
  decide

@[simp]
theorem encodable_ofHex (width n : Nat) : Encodable (ofHex width n) := by
  rw [ofHex]
  exact encodable_append.mpr ⟨encodable_zeros _, encodable_map_ofChar _⟩

theorem Bare.encodable {t : Text} (bare : Bare t) : t.Encodable :=
  fun c member => CodePoint.isSurrogate_of_isBare (bare c member)

end Text

@[simp]
theorem Path.encodable (p : Path) : p.text.Encodable :=
  (Text.bare_of_isPath p.valid).encodable

@[simp]
theorem Reference.encodable (r : Reference) : r.name.Encodable :=
  (Text.bare_of_isComponentName r.valid).encodable

-----------------------------------------------------------------------------------------
-- Numbers
-----------------------------------------------------------------------------------------

/-- A decimal has an encoding if what stands behind whole numbers has one, by the place of its
point.
-/
theorem DecimalLayout.encodable {layout : DecimalLayout} (ending : layout.wholeEnding.Encodable)
    (d : Decimal)
    : (layout.text d).Encodable := by
  have exponent (n : Int) : (exponentText n).Encodable := by
    rw [exponentText]
    split <;> simp
  have digits := Text.encodable_ofNat d.reduced.digits
  rw [DecimalLayout.text]
  dsimp only
  generalize Text.ofNat d.reduced.digits = row at digits ⊢
  split
  · simp [ending]
  · split
    · cases row with
      | nil => exact digits
      | cons first rest =>
          obtain ⟨head, tail⟩ := Text.encodable_cons.mp digits
          cases rest <;> simp_all
    · split
      · simp [digits]
      · split
        · simp [digits.of_subset (List.take_subset _ _), digits.of_subset (List.drop_subset _ _)]
        · simp [digits, ending]

@[simp]
theorem encodable_signText (negative : Bool) : (signText negative).Encodable := by
  cases negative <;> simp [signText]

@[simp]
theorem FiniteDouble.encodable (x : FiniteDouble) : x.text.Encodable := by
  have ending : DecimalLayout.value.wholeEnding.Encodable := Text.encodable_ofString ".0"
  rw [FiniteDouble.text, Text.encodable_append]
  exact ⟨encodable_signText _, DecimalLayout.encodable ending _⟩

namespace Double

@[simp]
theorem encodable_text (x : Double) : x.text.Encodable := by
  cases x <;> simp [text]

@[simp]
theorem encodable_boundText (x : Double) : x.boundText.Encodable := by
  cases x with
  | finite x =>
      have ending : DecimalLayout.bound.wholeEnding.Encodable := Text.encodable_nil
      rw [boundText, Text.encodable_append]
      exact ⟨encodable_signText _, DecimalLayout.encodable ending _⟩
  | infinite | nan => simp [boundText, text]

end Double

-----------------------------------------------------------------------------------------
-- Texts in quotes
-----------------------------------------------------------------------------------------

namespace CodePoint

theorem isSurrogate_of_low {c : CodePoint} (low : c.val < 0xD800) : c.isSurrogate = false := by
  simp only [isSurrogate, Bool.and_eq_false_iff, decide_eq_false_iff_not]
  omega

/-- A code point in a shown text: what is not printable stands in hexadecimal, case by case. -/
theorem encodable_shown {quote : CodePoint} (basic : quote.isSurrogate = false) (c : CodePoint)
    : Text.Encodable (shown quote c) := by
  have backslashBasic : backslash.isSurrogate = false := by decide
  rw [shown]
  split
  · next special =>
      simp only [Bool.or_eq_true, decide_eq_true_eq] at special
      rcases special with rfl | rfl <;> simp [basic, backslashBasic]
  · split
    · simp
    · split
      · simp
      · split
        · simp
        · split
          · next printable => simp [isSurrogate_of_isPrintable printable]
          · split
            · simp
            · split <;> simp

/-- A code point in an ASCII literal, case by case. -/
theorem encodable_escaped (c : CodePoint) : c.escaped.Encodable := by
  unfold escaped
  split
  case h_8 =>
    split
    · next ascii =>
        simp only [Bool.and_eq_true, decide_eq_true_eq] at ascii
        simp [isSurrogate_of_low (show c.val < 0xD800 by omega)]
    · split <;> simp
  all_goals simp

end CodePoint

namespace Text

/-- Whatever a text is, messages show it by code points that have an encoding. -/
@[simp]
theorem encodable_shown (t : Text) : t.shown.Encodable := by
  have quote : t.shownQuote.isSurrogate = false := by
    rw [shownQuote]
    split <;> decide
  simp [shown, quote, CodePoint.encodable_shown quote]

@[simp]
theorem encodable_literal (t : Text) : t.literal.Encodable := by
  have quote : CodePoint.doubleQuote.isSurrogate = false := by decide
  simp [literal, quote, CodePoint.encodable_escaped]

end Text

namespace Datum

mutual

/-- A datum as messages show it, by induction on the datum. -/
@[simp]
theorem encodable_shown (d : Datum) : d.shown.Encodable := by
  cases d with
  | missing | int | float | text | reference => simp [shown, shownReference]
  | bool b => cases b <;> simp [shown, shownBool]
  | list items =>
      simpa [shown, Text.encodable_join (Text.encodable_ofString _)]
        using encodable_shownItems items
  | map entries =>
      simpa [shown, Text.encodable_join (Text.encodable_ofString _)]
        using encodable_shownEntries entries

theorem encodable_shownItems (items : List Datum) : ∀ t ∈ shownItems items, t.Encodable := by
  cases items with
  | nil => simp [shownItems]
  | cons item rest =>
      rw [shownItems]
      exact List.forall_mem_cons.mpr ⟨encodable_shown item, encodable_shownItems rest⟩

theorem encodable_shownEntries (entries : List (Text × Datum))
    : ∀ t ∈ shownEntries entries, t.Encodable := by
  cases entries with
  | nil => simp [shownEntries]
  | cons entry rest =>
      obtain ⟨key, item⟩ := entry
      rw [shownEntries]
      refine List.forall_mem_cons.mpr ⟨?_, encodable_shownEntries rest⟩
      simp [encodable_shown item]

end

end Datum

namespace Value

/-- A value as scripts have it. -/
@[simp]
theorem encodable_scriptText (v : Value) : v.scriptText.Encodable := by
  cases v with
  | bool b => cases b <;> simp [scriptText]
  | reference | int | float | text => simp [scriptText]

end Value

end Recommender
