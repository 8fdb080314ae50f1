import Mathlib.Data.List.TakeWhile
import Recommender.Proofs.Text.Parts
import Recommender.Text.Blank
import Recommender.Text.Digit
import Recommender.Text.Lines

/-! Classes of code points. What names, paths and numbers are made of is neither blank nor one of
the marks that a script gives a meaning of its own; trimming leaves such texts as they are.
-/

namespace Recommender

namespace CodePoint

/-- Ranges that have no code point in common. -/
def apart (ranges others : List (Nat × Nat)) : Bool :=
  ranges.all fun range => others.all fun other => range.2 < other.1 || other.2 < range.1

/-- No code point lies in ranges of two lists that are apart. -/
theorem not_inRanges_of_apart {ranges others : List (Nat × Nat)}
    (apart : apart ranges others = true) {c : CodePoint} (inside : inRanges ranges c = true)
    : inRanges others c = false := by
  obtain ⟨range, member, within⟩ := List.any_eq_true.mp inside
  rw [inRanges, List.any_eq_false]
  intro other memberOther withinOther
  have separate := List.all_eq_true.mp (List.all_eq_true.mp apart range member) other memberOther
  simp only [Bool.and_eq_true, Bool.or_eq_true, decide_eq_true_eq] at within withinOther separate
  omega

/-- A code point in one of some ranges lies in those of a longer list. -/
theorem inRanges_of_subset {ranges others : List (Nat × Nat)} (subset : ranges ⊆ others)
    {c : CodePoint} (inside : inRanges ranges c = true)
    : inRanges others c = true := by
  obtain ⟨range, member, within⟩ := List.any_eq_true.mp inside
  exact List.any_eq_true.mpr ⟨range, subset member, within⟩

/-- Every line end is blank. -/
theorem isBlank_of_isLineEnd {c : CodePoint} (ends : c.isLineEnd = true) : c.isBlank = true := by
  simp only [isLineEnd, isBlank, inRanges, blankRanges, List.any_cons, List.any_nil, Bool.or_false,
    Bool.or_eq_true, Bool.and_eq_true, decide_eq_true_eq] at ends ⊢
  omega

/-- The ranges of the marks that scripts give a meaning of their own. -/
def markRanges : List (Nat × Nat) :=
  [(0x22, 0x22), (0x27, 0x27), (0x2F, 0x2F), (0x3B, 0x3B), (0x3D, 0x3D), (0x5C, 0x5C)]

/-- A quote, a slash, a semicolon, an equals sign or a backslash. -/
def isMark (c : CodePoint) : Bool :=
  inRanges markRanges c

/-- Whether a code point is one that names, paths and numbers are made of. -/
def isBare (c : CodePoint) : Bool :=
  c.continuesName || c = dot || c = plus || c = minus

/-- No letter or numeral is blank or a mark, range by range. -/
theorem alphanumericRanges_apart
    : apart alphanumericRanges (blankRanges ++ markRanges) = true := by
  decide +kernel

/-- What names, paths and numbers are made of is neither blank nor a mark. -/
theorem isBare_apart {c : CodePoint} (bare : c.isBare = true)
    : c.isBlank = false ∧ c.isMark = false := by
  simp only [isBare, continuesName, Bool.or_eq_true, decide_eq_true_eq] at bare
  rcases bare with ((((alphanumeric | rfl) | rfl) | rfl) | rfl) | rfl
  · have outside := not_inRanges_of_apart alphanumericRanges_apart alphanumeric
    rw [inRanges, List.any_append, Bool.or_eq_false_iff] at outside
    exact outside
  all_goals decide

/-- What names, paths and numbers are made of ends no line, for line ends are blank. -/
theorem isLineEnd_of_isBare {c : CodePoint} (bare : c.isBare = true) : c.isLineEnd = false := by
  cases ends : c.isLineEnd with
  | false => rfl
  | true =>
      have blank := isBlank_of_isLineEnd ends
      rw [(isBare_apart bare).1] at blank
      cases blank

theorem ne_of_isBare {c mark : CodePoint} (bare : c.isBare = true) (isMark : mark.isMark = true)
    : c ≠ mark := by
  rintro rfl
  rw [(isBare_apart bare).2] at isMark
  cases isMark

/-- ASCII letters and digits are letters and numerals. -/
theorem isAlphanumeric_of_ascii {c : CodePoint}
    (ascii : c.isAsciiLetter = true ∨ 0x30 ≤ c.val ∧ c.val ≤ 0x39)
    : c.isAlphanumeric = true := by
  obtain ⟨others, ranges⟩
    : ∃ others, alphanumericRanges = [(0x30, 0x39), (0x41, 0x5A), (0x61, 0x7A)] ++ others := ⟨_, rfl⟩
  rw [isAlphanumeric, ranges]
  refine inRanges_of_subset (List.subset_append_left _ _) ?_
  simp only [isAsciiLetter, Bool.or_eq_true, Bool.and_eq_true, decide_eq_true_eq] at ascii
  simp only [inRanges, List.any_cons, List.any_nil, Bool.or_false, Bool.or_eq_true,
    Bool.and_eq_true, decide_eq_true_eq]
  omega

theorem isBare_of_ascii {c : CodePoint}
    (ascii : c.isAsciiLetter = true ∨ 0x30 ≤ c.val ∧ c.val ≤ 0x39)
    : c.isBare = true := by
  simp [isBare, continuesName, isAlphanumeric_of_ascii ascii]

theorem isBare_of_beginsIdentifier {c : CodePoint} (begins : c.beginsIdentifier = true)
    : c.isBare = true := by
  simp only [beginsIdentifier, Bool.or_eq_true, decide_eq_true_eq] at begins
  rcases begins with letter | rfl
  · exact isBare_of_ascii (Or.inl letter)
  · simp [isBare, continuesName]

theorem isBare_of_continuesIdentifier {c : CodePoint} (continues : c.continuesIdentifier = true)
    : c.isBare = true := by
  simp only [continuesIdentifier, Bool.or_eq_true] at continues
  rcases continues with begins | digit
  · exact isBare_of_beginsIdentifier begins
  · refine isBare_of_ascii (Or.inr ?_)
    unfold asciiDigit? at digit
    split at digit
    · next range => simpa using range
    · cases digit

theorem zeroDigits_alphanumeric
    : zeroDigits.all (fun first =>
        alphanumericRanges.any fun range => range.1 ≤ first && first + 9 ≤ range.2) = true := by
  decide +kernel

/-- A digit of any script is bare. -/
theorem isBare_of_isDigit {c : CodePoint} (digit : c.isDigit = true) : c.isBare = true := by
  rw [isDigit, digit?, Option.isSome_map, List.find?_isSome] at digit
  obtain ⟨first, member, within⟩ := digit
  obtain ⟨range, known, inside⟩ :=
    List.any_eq_true.mp (List.all_eq_true.mp zeroDigits_alphanumeric first member)
  have alphanumeric : c.isAlphanumeric = true := by
    refine List.any_eq_true.mpr ⟨range, known, ?_⟩
    simp only [Bool.and_eq_true, decide_eq_true_eq] at within inside ⊢
    omega
  simp [isBare, continuesName, alphanumeric]

end CodePoint

namespace Text

-----------------------------------------------------------------------------------------
-- Bare texts
-----------------------------------------------------------------------------------------

/-- A text of code points that are neither blank nor marks. -/
def Bare (t : Text) : Prop :=
  ∀ c ∈ t, c.isBare = true

theorem bare_nil : Bare [] :=
  fun _ member => absurd member List.not_mem_nil

theorem Bare.append {front back : Text} (frontBare : Bare front) (backBare : Bare back)
    : Bare (front ++ back) := by
  intro c member
  rcases List.mem_append.mp member with member | member
  · exact frontBare c member
  · exact backBare c member

/-- A dotted text whose parts are bare is bare. -/
theorem bare_of_splitOn {t : Text} (parts : ∀ part ∈ splitOn CodePoint.dot t, Bare part)
    : Bare t := by
  intro c member
  rcases all_of_splitOn parts c member with rfl | bare
  · simp [CodePoint.isBare]
  · exact bare

theorem bare_of_isPath {t : Text} (path : t.isPath = true) : Bare t := by
  refine bare_of_splitOn fun part member => ?_
  have identifier := List.all_eq_true.mp path part member
  cases part with
  | nil => cases identifier
  | cons first rest =>
      simp only [isIdentifier, Bool.and_eq_true, List.all_eq_true] at identifier
      intro c inside
      rcases List.mem_cons.mp inside with rfl | later
      · exact CodePoint.isBare_of_beginsIdentifier identifier.1
      · exact CodePoint.isBare_of_continuesIdentifier (identifier.2 c later)

theorem bare_of_isComponentName {t : Text} (name : t.isComponentName = true) : Bare t := by
  refine bare_of_splitOn fun part member => ?_
  have segment := List.all_eq_true.mp name part member
  cases part with
  | nil => cases segment
  | cons first rest =>
      simp only [isNameSegment, CodePoint.beginsName, Bool.and_eq_true, Bool.or_eq_true,
        decide_eq_true_eq, List.all_eq_true] at segment
      intro c inside
      rcases List.mem_cons.mp inside with rfl | later
      · rcases segment.1 with begins | rfl
        · exact CodePoint.isBare_of_beginsIdentifier begins
        · simp [CodePoint.isBare, CodePoint.continuesName]
      · simp [CodePoint.isBare, segment.2 c later]

-----------------------------------------------------------------------------------------
-- Trimming
-----------------------------------------------------------------------------------------

/-- A text that begins with no blank loses nothing at its start. -/
theorem trimStart_eq_self {t : Text} (begins : ∀ c ∈ t.head?, c.isBlank = false)
    : trimStart t = t := by
  cases t with
  | nil => rfl
  | cons c rest => simp [trimStart, begins c rfl]

/-- A text that ends with no blank loses nothing at its end. -/
theorem trimEnd_eq_self {t : Text} (ends : ∀ c ∈ t.getLast?, c.isBlank = false)
    : trimEnd t = t := by
  have reversed := trimStart_eq_self (t := t.reverse) (by simpa using ends)
  rw [trimStart] at reversed
  rw [trimEnd, reversed, List.reverse_reverse]

/-- Only what stands behind the last code point that is not blank can be trimmed at the end. -/
theorem trimEnd_append {front : Text} (ends : ∀ c ∈ front.getLast?, c.isBlank = false)
    (back : Text)
    : trimEnd (front ++ back) = front ++ trimEnd back := by
  have same := congrArg List.reverse (trimEnd_eq_self ends)
  rw [trimEnd, List.reverse_reverse] at same
  rw [trimEnd, List.reverse_append, List.dropWhile_append]
  split
  · next blank =>
      rw [List.isEmpty_iff] at blank
      simp [trimEnd, blank, same]
  · simp [trimEnd]

/-- Texts whose first and last code points are not blank. -/
structure Trimmed (t : Text) : Prop where
  begins : ∀ c ∈ t.head?, c.isBlank = false
  ends : ∀ c ∈ t.getLast?, c.isBlank = false

/-- A text between two code points that are not blank stays as it is. -/
theorem Trimmed.trim {t : Text} (trimmed : Trimmed t) : Text.trim t = t := by
  rw [Text.trim, trimStart_eq_self trimmed.begins, trimEnd_eq_self trimmed.ends]

/-- A text that trimming leaves as it is begins and ends with code points that are not blank. -/
theorem Trimmed.of_trim {t : Text} (same : Text.trim t = t) : Trimmed t := by
  have start : (trimStart t).Sublist t := List.dropWhile_sublist _
  have ending : (Text.trim t).Sublist (trimStart t) := by
    have inside := (List.dropWhile_sublist CodePoint.isBlank (l := (trimStart t).reverse)).reverse
    rwa [List.reverse_reverse] at inside
  rw [same] at ending
  have startSame : trimStart t = t := start.eq_of_length_le ending.length_le
  rw [Text.trim, startSame] at same
  constructor
  · intro c head
    have begins := List.head?_dropWhile_not CodePoint.isBlank t
    rw [show t.dropWhile CodePoint.isBlank = t from startSame, Option.mem_def.mp head] at begins
    exact begins
  · intro c last
    have ends := List.head?_dropWhile_not CodePoint.isBlank t.reverse
    rw [← List.reverse_reverse (t.reverse.dropWhile CodePoint.isBlank),
      show (t.reverse.dropWhile CodePoint.isBlank).reverse = t from same, List.head?_reverse,
      Option.mem_def.mp last] at ends
    exact ends

/-- A trimmed text begins and ends with code points that are not blank. -/
theorem trimmed_trim (t : Text) : Trimmed t.trim := by
  constructor
  · intro c head
    have front : t.trim <+: trimStart t := by
      have back := List.dropWhile_suffix CodePoint.isBlank (l := (trimStart t).reverse)
      have front := List.reverse_prefix.mpr back
      rwa [List.reverse_reverse] at front
    obtain ⟨rest, whole⟩ := front
    have begins := List.head?_dropWhile_not CodePoint.isBlank t
    have same : (trimStart t).head? = some c := by
      rw [← whole, List.head?_append, Option.mem_def.mp head, Option.some_or]
    rw [show t.dropWhile CodePoint.isBlank = trimStart t from rfl, same] at begins
    exact begins
  · intro c last
    have ends := List.head?_dropWhile_not CodePoint.isBlank (trimStart t).reverse
    rw [Text.trim, trimEnd, List.getLast?_reverse] at last
    rw [Option.mem_def.mp last] at ends
    exact ends

/-- What stands between two trimmed texts is not trimmed. -/
theorem Trimmed.append {front back : Text} (frontTrimmed : Trimmed front)
    (backTrimmed : Trimmed back) (frontNonempty : front ≠ []) (backNonempty : back ≠ [])
    (between : Text)
    : Trimmed (front ++ between ++ back) := by
  obtain ⟨first, rest, rfl⟩ := List.exists_cons_of_ne_nil frontNonempty
  constructor
  · simpa using frontTrimmed.begins
  · have ends := backTrimmed.ends
    rw [List.getLast?_append, List.getLast?_eq_some_getLast backNonempty, Option.some_or]
    rwa [List.getLast?_eq_some_getLast backNonempty] at ends

theorem Bare.trimmed {t : Text} (bare : Bare t) : Trimmed t where
  begins := fun c head => (CodePoint.isBare_apart (bare c (List.mem_of_mem_head? head))).1
  ends := fun c last => (CodePoint.isBare_apart (bare c (List.mem_of_mem_getLast? last))).1

/-- Blanks around a trimmed text are trimmed. -/
theorem Trimmed.trim_blanks {t : Text} (trimmed : Trimmed t) (nonempty : t ≠ [])
    (before after : Text) (blankBefore : ∀ c ∈ before, c.isBlank = true)
    (blankAfter : ∀ c ∈ after, c.isBlank = true)
    : Text.trim (before ++ t ++ after) = t := by
  obtain ⟨first, rest, rfl⟩ := List.exists_cons_of_ne_nil nonempty
  have start : trimStart (before ++ (first :: rest) ++ after) = (first :: rest) ++ after := by
    rw [trimStart, List.append_assoc, List.dropWhile_append_of_pos blankBefore]
    exact trimStart_eq_self trimmed.begins
  have nothing : trimEnd after = [] := by
    have blank : ∀ c ∈ after.reverse, c.isBlank = true := by simpa using blankAfter
    have dropped : (after.reverse ++ []).dropWhile CodePoint.isBlank = [] :=
      List.dropWhile_append_of_pos blank
    rw [List.append_nil] at dropped
    rw [trimEnd, dropped]
    rfl
  rw [Text.trim, start, trimEnd_append trimmed.ends, nothing, List.append_nil]

/-- Trimming takes off blanks at both ends and nothing else. -/
theorem trim_cut (t : Text)
    : ∃ before after : Text,
        t = before ++ t.trim ++ after
        ∧ (∀ c ∈ before, c.isBlank = true)
        ∧ ∀ c ∈ after, c.isBlank = true := by
  refine ⟨t.takeWhile CodePoint.isBlank,
    (t.trimStart.reverse.takeWhile CodePoint.isBlank).reverse, ?_,
    fun c member => List.mem_takeWhile_imp member,
    fun c member => List.mem_takeWhile_imp (List.mem_reverse.mp member)⟩
  have ends : trim t ++ (t.trimStart.reverse.takeWhile CodePoint.isBlank).reverse
      = t.trimStart := by
    rw [trim, trimEnd, ← List.reverse_append, List.takeWhile_append_dropWhile,
      List.reverse_reverse]
  rw [List.append_assoc, ends]
  exact List.takeWhile_append_dropWhile.symm

/-- A text that ends with a code point that is not blank still does when it is trimmed. -/
theorem getLast?_trim {t : Text} {c : CodePoint} (last : t.getLast? = some c)
    (visible : c.isBlank = false)
    : t.trim.getLast? = some c := by
  obtain ⟨before, after, form, blankBefore, blankAfter⟩ := trim_cut t
  have notBlank {blanks : Text} (blank : ∀ d ∈ blanks, d.isBlank = true)
      : blanks.getLast? ≠ some c := by
    intro same
    rw [blank c (List.mem_of_getLast? same)] at visible
    cases visible
  rw [form, List.getLast?_append, List.getLast?_append] at last
  cases behind : after.getLast? with
  | some d =>
      rw [behind, Option.some_or] at last
      exact absurd (behind.trans last) (notBlank blankAfter)
  | none =>
      rw [behind, Option.none_or] at last
      cases inside : t.trim.getLast? with
      | some d => rwa [inside, Option.some_or] at last
      | none =>
          rw [inside, Option.none_or] at last
          exact absurd last (notBlank blankBefore)

end Text

end Recommender
