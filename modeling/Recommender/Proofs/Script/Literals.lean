import Recommender.Proofs.Script.Scanning
import Recommender.Proofs.Text.Digits
import Recommender.Text.Quoted

/-! ASCII literals read as script literals. A literal is written with a code point beyond the basic
plane as two surrogates and read with both surrogates as code points of their own; everything else
is read as it was written.
-/

namespace Recommender

/-- The code points that are read where a code point was written in an ASCII literal. -/
def CodePoint.halves (c : CodePoint) : Text :=
  if c.val < 0x10000 then [c]
  else [Fin.ofNat _ c.surrogatePair.1, Fin.ofNat _ c.surrogatePair.2]

namespace Script

/-- An escape of four hexadecimal digits. -/
def hexEscape (n : Nat) : Text :=
  CodePoint.backslash :: 0x75 :: Text.ofHex 4 n

-----------------------------------------------------------------------------------------
-- The forms of an escaped code point
-----------------------------------------------------------------------------------------

/-- A code point is written as a letter behind a backslash, as itself, as one escape or as two. -/
theorem escaped_forms (c : CodePoint)
    : (∃ letter,
        c.escaped = [CodePoint.backslash, letter]
        ∧ simpleEscapes.lookup letter = some c
        ∧ letter.isLineEnd = false
        ∧ c.val < 0x80)
      ∨ (c.escaped = [c]
        ∧ 0x20 ≤ c.val ∧ c.val ≤ 0x7E
        ∧ c ≠ CodePoint.doubleQuote ∧ c ≠ CodePoint.backslash)
      ∨ (c.escaped = hexEscape c.val ∧ c.val < 0x10000)
      ∨ (c.escaped = hexEscape c.surrogatePair.1 ++ hexEscape c.surrogatePair.2
        ∧ 0x10000 ≤ c.val) := by
  unfold CodePoint.escaped
  split
  · exact Or.inl ⟨CodePoint.doubleQuote, rfl, by decide, by decide, by decide⟩
  · exact Or.inl ⟨CodePoint.backslash, rfl, by decide, by decide, by decide⟩
  · exact Or.inl ⟨0x6E, rfl, by decide, by decide, by decide⟩
  · exact Or.inl ⟨0x72, rfl, by decide, by decide, by decide⟩
  · exact Or.inl ⟨0x74, rfl, by decide, by decide, by decide⟩
  · exact Or.inl ⟨0x62, rfl, by decide, by decide, by decide⟩
  · exact Or.inl ⟨0x66, rfl, by decide, by decide, by decide⟩
  · next noQuote noBackslash _ _ _ _ _ =>
      by_cases printable : 0x20 ≤ c.val ∧ c.val ≤ 0x7E
      · refine Or.inr (Or.inl ⟨?_, printable.1, printable.2, noQuote, noBackslash⟩)
        simp [printable]
      · have other : ¬ (decide (0x20 ≤ c.val) && decide (c.val ≤ 0x7E)) = true := by
          simpa using printable
        rw [if_neg other]
        by_cases basic : c.val < 0x10000
        · rw [if_pos basic]
          exact Or.inr (Or.inr (Or.inl ⟨rfl, basic⟩))
        · rw [if_neg basic]
          refine Or.inr (Or.inr (Or.inr ⟨?_, by omega⟩))
          rw [List.append_assoc]
          rfl

/-- Both halves of a pair fit an escape and are surrogates. -/
theorem surrogatePair_bounds {c : CodePoint} (beyond : 0x10000 ≤ c.val)
    : 0xD800 ≤ c.surrogatePair.1 ∧ c.surrogatePair.1 < 0xDC00
      ∧ 0xDC00 ≤ c.surrogatePair.2 ∧ c.surrogatePair.2 < 0xE000 := by
  have bound := c.isLt
  simp only [CodePoint.surrogatePair]
  omega

-----------------------------------------------------------------------------------------
-- Literals hold on one line
-----------------------------------------------------------------------------------------

/-- A hexadecimal digit is bare. -/
theorem isBare_of_hexDigit? {c : CodePoint} (digit : (c.hexDigit?).isSome = true)
    : c.isBare = true := by
  refine CodePoint.isBare_of_ascii ?_
  have letter : c.isAsciiLetter = true
      ↔ (0x41 ≤ c.val ∧ c.val ≤ 0x5A) ∨ (0x61 ≤ c.val ∧ c.val ≤ 0x7A) := by
    simp [CodePoint.isAsciiLetter]
  rw [letter]
  unfold CodePoint.hexDigit? at digit
  split at digit
  · next decimal => simp only [Bool.and_eq_true, decide_eq_true_eq] at decimal; omega
  · split at digit
    · next upper => simp only [Bool.and_eq_true, decide_eq_true_eq] at upper; omega
    · split at digit
      · next lower => simp only [Bool.and_eq_true, decide_eq_true_eq] at lower; omega
      · cases digit

/-- Bare text belongs to the body of any literal, by list induction. -/
theorem literalBody_of_bare {quote : CodePoint} (isMark : quote.isMark = true) {t : Text}
    (bare : Text.Bare t)
    : LiteralBody quote t := by
  induction t with
  | nil => exact .nil
  | cons c rest ih =>
      have first := bare c List.mem_cons_self
      exact .plain (CodePoint.ne_of_isBare first isMark) (CodePoint.ne_of_isBare first (by decide))
        (CodePoint.isLineEnd_of_isBare first)
        (ih fun c' member => bare c' (List.mem_cons_of_mem _ member))

/-- An escape of hexadecimal digits belongs to the body of a literal. -/
theorem literalBody_hexEscape (n : Nat)
    : LiteralBody CodePoint.doubleQuote (hexEscape n) := by
  refine .escape (by decide) (literalBody_of_bare (by decide) fun c member => ?_)
  exact isBare_of_hexDigit? (Text.hexDigit?_of_mem_ofHex member)

/-- A code point is written inside a literal as part of its body. -/
theorem literalBody_escaped (c : CodePoint) : LiteralBody CodePoint.doubleQuote c.escaped := by
  rcases escaped_forms c with ⟨letter, form, _, stays, _⟩ | ⟨form, low, high, noQuote, noBackslash⟩
    | ⟨form, basic⟩ | ⟨form, beyond⟩
  · rw [form]
    exact .escape stays .nil
  · rw [form]
    refine .plain noQuote noBackslash ?_ .nil
    simp only [CodePoint.isLineEnd, CodePoint.inRanges, List.any_cons, List.any_nil,
      Bool.or_false, Bool.or_eq_false_iff, Bool.and_eq_false_iff, decide_eq_false_iff_not]
    omega
  · rw [form]
    exact literalBody_hexEscape _
  · rw [form]
    exact (literalBody_hexEscape _).append (literalBody_hexEscape _)

/-- All code points between the quotes of an ASCII literal form its body, by list induction. -/
theorem literalBody_flatMap (t : Text)
    : LiteralBody CodePoint.doubleQuote (t.flatMap CodePoint.escaped) := by
  induction t with
  | nil => exact .nil
  | cons c rest ih => exact (literalBody_escaped c).append ih

/-- An ASCII literal is inert. -/
theorem inert_literal (t : Text) : Inert (Text.literal t) := by
  have inert := Inert.literal (by decide) (literalBody_flatMap t) Inert.nil
  simpa [Text.literal] using inert

/-- The body of an ASCII literal is found between its quotes. -/
theorem literalBodyOf?_literal (t : Text)
    : literalBodyOf? (Text.literal t) = some (t.flatMap CodePoint.escaped) :=
  literalBody?_append (literalBody_flatMap t)

-----------------------------------------------------------------------------------------
-- What escapes denote
-----------------------------------------------------------------------------------------

/-- Part of a body that denotes a text whatever stands behind it. -/
def Denotes (part denoted : Text) : Prop :=
  ∀ rest, denoted? (part ++ rest) = (denoted ++ ·) <$> denoted? rest

theorem Denotes.append {front back frontText backText : Text} (first : Denotes front frontText)
    (second : Denotes back backText)
    : Denotes (front ++ back) (frontText ++ backText) := by
  intro rest
  rw [List.append_assoc, first, second]
  simp [Function.comp_def]

/-- A backslash denotes what its escape denotes. -/
theorem denotes_escape {part denoted : Text}
    (read : ∀ rest, escape? (part ++ rest) = some (denoted, part.length))
    : Denotes (CodePoint.backslash :: part) denoted := by
  intro rest
  rw [List.cons_append, denoted?, if_pos rfl, read]
  simp

/-- Four hexadecimal digits behind their escape denote the code point of that number. -/
theorem denotes_hexEscape {n : Nat} (fits : n < 16 ^ 4)
    : Denotes (hexEscape n) [Fin.ofNat _ n] := by
  have value := Text.hexValue?_ofHex (by decide) fits
  have length : (Text.ofHex 4 n).length = 4 := Text.length_ofHex (by decide) fits
  have inside : n < 0x110000 := by omega
  have denoted : CodePoint.ofNat? n = some (Fin.ofNat _ n) := by
    simp [CodePoint.ofNat?, inside, Fin.ofNat, Nat.mod_eq_of_lt inside]
  refine denotes_escape fun rest => ?_
  have digits : (Text.ofHex 4 n ++ rest).take 4 = Text.ofHex 4 n :=
    List.take_left' length
  have read : escape? (0x75 :: (Text.ofHex 4 n ++ rest))
      = ((Text.hexValue? 4 ((Text.ofHex 4 n ++ rest).take 4)).bind CodePoint.ofNat?).map
          fun denoted => ([denoted], 1 + 4) := rfl
  rw [List.cons_append, read, digits, value]
  simp [denoted, length]

/-- A code point in a literal denotes its halves. -/
theorem denotes_escaped (c : CodePoint) : Denotes c.escaped c.halves := by
  rcases escaped_forms c with ⟨letter, form, read, _, ascii⟩ | ⟨form, low, high, _, noBackslash⟩
    | ⟨form, basic⟩ | ⟨form, beyond⟩
  · rw [form, CodePoint.halves, if_pos (by omega)]
    exact denotes_escape fun rest => by simp [escape?, read]
  · have basic : c.val < 0x10000 := by omega
    have plain : c ≠ CodePoint.carriageReturn ∧ c ≠ CodePoint.null ∧ c.isSurrogate = false := by
      refine ⟨?_, ?_, ?_⟩
      · rintro rfl
        revert low
        decide
      · rintro rfl
        revert low
        decide
      · simp only [CodePoint.isSurrogate, Bool.and_eq_false_iff, decide_eq_false_iff_not]
        omega
    rw [form, CodePoint.halves, if_pos basic]
    intro rest
    rw [List.singleton_append, denoted?, if_neg noBackslash]
    simp [plain]
  · have same : (Fin.ofNat _ c.val : CodePoint) = c := by
      simp [Fin.ofNat, Nat.mod_eq_of_lt c.isLt]
    have denotes := denotes_hexEscape (show c.val < 16 ^ 4 by omega)
    rw [same] at denotes
    rw [form, CodePoint.halves, if_pos basic]
    exact denotes
  · obtain ⟨_, first, _, second⟩ := surrogatePair_bounds beyond
    rw [form, CodePoint.halves, if_neg (by omega)]
    exact (denotes_hexEscape (by omega)).append (denotes_hexEscape (by omega))

/-- The body of an ASCII literal denotes the halves of what was written, by list induction. -/
theorem denoted?_escaped (t : Text)
    : denoted? (t.flatMap CodePoint.escaped) = some (t.flatMap CodePoint.halves) := by
  induction t with
  | nil => simp [denoted?]
  | cons c rest ih =>
      rw [List.flatMap_cons, denotes_escaped, ih]
      rfl

-----------------------------------------------------------------------------------------
-- Halves
-----------------------------------------------------------------------------------------

/-- The halves of a code point are written as the code point is. -/
theorem escaped_halves (c : CodePoint) : c.halves.flatMap CodePoint.escaped = c.escaped := by
  by_cases basic : c.val < 0x10000
  · simp [CodePoint.halves, basic]
  · obtain ⟨low, first, low', second⟩ := surrogatePair_bounds (c := c) (by omega)
    have surrogate {n : Nat} (low : 0xD800 ≤ n) (high : n < 0xE000)
        : CodePoint.escaped (Fin.ofNat _ n) = hexEscape n := by
      have value : (Fin.ofNat 0x110000 n).val = n := Nat.mod_eq_of_lt (by omega)
      rcases escaped_forms (Fin.ofNat 0x110000 n) with ⟨_, _, _, _, ascii⟩ | ⟨_, _, high', _⟩
        | ⟨form, _⟩ | ⟨_, beyond⟩
      · omega
      · omega
      · rwa [value] at form
      · omega
    rcases escaped_forms c with ⟨_, _, _, _, ascii⟩ | ⟨_, _, high, _⟩ | ⟨_, basic'⟩ | ⟨form, _⟩
    · omega
    · omega
    · exact absurd basic' basic
    · rw [form, CodePoint.halves, if_neg basic]
      rw [List.flatMap_cons, List.flatMap_singleton, surrogate low (by omega),
        surrogate (by omega) second]

/-- A text read back is written as the text was. -/
theorem literal_halves (t : Text) : Text.literal (t.flatMap CodePoint.halves) = Text.literal t := by
  simp [Text.literal, List.flatMap_assoc, escaped_halves]

/-- A text is read back as itself exactly when no code point lies beyond the basic plane. -/
theorem flatMap_halves_eq_self {t : Text}
    : t.flatMap CodePoint.halves = t ↔ ∀ c ∈ t, c.val < 0x10000 := by
  constructor
  · intro same
    induction t with
    | nil => simp
    | cons c rest ih =>
        by_cases basic : c.val < 0x10000
        · rw [List.flatMap_cons, CodePoint.halves, if_pos basic, List.singleton_append,
            List.cons.injEq] at same
          simpa [basic] using ih same.2
        · -- the first half of a pair is a surrogate, so the texts differ at once
          obtain ⟨_, first, _⟩ := surrogatePair_bounds (c := c) (by omega)
          rw [List.flatMap_cons, CodePoint.halves, if_neg basic, List.cons_append,
            List.cons.injEq] at same
          have value : (Fin.ofNat 0x110000 c.surrogatePair.1).val = c.surrogatePair.1 :=
            Nat.mod_eq_of_lt (by omega)
          rw [same.1] at value
          omega
  · intro basic
    induction t with
    | nil => rfl
    | cons c rest ih =>
        rw [List.flatMap_cons, ih fun c' member => basic c' (List.mem_cons_of_mem _ member),
          CodePoint.halves, if_pos (basic c List.mem_cons_self)]
        rfl

end Script

end Recommender
