import Mathlib.Data.Nat.Init
import Recommender.Text.Lines

/-! Lines of a text. Lines that are ended one by one are found again when the text is cut into
lines, and cutting leaves no line end inside a line.
-/

namespace Recommender

theorem CodePoint.ne_lineFeed {c : CodePoint} (stays : c.isLineEnd = false)
    : c ≠ CodePoint.lineFeed := by
  rintro rfl
  cases stays

namespace Text

/-- A text on a single line. -/
def OnOneLine (t : Text) : Prop :=
  ∀ c ∈ t, c.isLineEnd = false

theorem onOneLine_nil : OnOneLine [] :=
  fun _ member => absurd member List.not_mem_nil

theorem OnOneLine.concat {t : Text} (single : OnOneLine t) {c : CodePoint}
    (stays : c.isLineEnd = false)
    : OnOneLine (t ++ [c]) := by
  intro d member
  rcases List.mem_append.mp member with inside | last
  · exact single d inside
  · rwa [List.mem_singleton.mp last]

/-- Lines one after the other, each ended by a line feed. -/
def ended (lines : List Text) : Text :=
  lines.flatMap (· ++ [CodePoint.lineFeed])

theorem ended_cons (line : Text) (rest : List Text)
    : ended (line :: rest) = line ++ CodePoint.lineFeed :: ended rest := by
  simp [ended]

/-- Lines with separators between them and one behind them are ended one by one, by list induction.
-/
theorem join_append_lineFeed {lines : List Text} (nonempty : lines ≠ [])
    : join "\n" lines ++ "\n" = ended lines := by
  induction lines with
  | nil => exact absurd rfl nonempty
  | cons line rest ih =>
      cases rest with
      | nil => simp [join, ended, List.intercalate]; rfl
      | cons second others =>
          have step : join "\n" (line :: second :: others)
              = line ++ "\n" ++ join "\n" (second :: others) := by
            simp [join, List.intercalate]
          rw [step, List.append_assoc, ih (by simp)]
          simp [ended]
          rfl

/-- A code point that ends no line stays on the line. -/
theorem lines_cons {c : CodePoint} (plain : c.isLineEnd = false) (rest : Text)
    : lines (c :: rest) = addToFirst c (lines rest) := by
  rw [lines]
  · simp [plain]
  · rintro _ rfl _
    cases plain

theorem foldr_addToFirst_cons (t : Text) (others : List Text)
    : t.foldr addToFirst ([] :: others) = t :: others := by
  induction t with
  | nil => rfl
  | cons c rest ih => rw [List.foldr_cons, ih, addToFirst]

theorem foldr_addToFirst_nil {t : Text} (nonempty : t ≠ []) : t.foldr addToFirst [] = [t] := by
  induction t with
  | nil => exact absurd rfl nonempty
  | cons c rest ih =>
      cases rest with
      | nil => rfl
      | cons d others => rw [List.foldr_cons, ih (by simp), addToFirst]

/-- A text on one line makes the first line behind it longer, by list induction. -/
theorem lines_append {line : Text} (single : OnOneLine line) (rest : Text)
    : lines (line ++ rest) = line.foldr addToFirst (lines rest) := by
  induction line with
  | nil => rfl
  | cons c others ih =>
      rw [List.cons_append, lines_cons (single c List.mem_cons_self),
        ih (fun c member => single c (List.mem_cons_of_mem _ member)), List.foldr_cons]

/-- A text on one line is a line, unless it is empty. -/
theorem lines_single {line : Text} (single : OnOneLine line) (nonempty : line ≠ [])
    : lines line = [line] := by
  have whole := lines_append single []
  rwa [List.append_nil, lines, foldr_addToFirst_nil nonempty] at whole

/-- A line feed ends the line before it. -/
theorem lines_append_lineFeed {line : Text} (single : OnOneLine line) (rest : Text)
    : lines (line ++ CodePoint.lineFeed :: rest) = line :: lines rest := by
  have ends : lines (CodePoint.lineFeed :: rest) = [] :: lines rest := rfl
  rw [lines_append single, ends, foldr_addToFirst_cons]

/-- A carriage return takes a line feed along when it ends the line before it. -/
theorem lines_append_return {line : Text} (single : OnOneLine line) (rest : Text)
    : lines (line ++ CodePoint.carriageReturn :: CodePoint.lineFeed :: rest)
      = line :: lines rest := by
  have ends : lines (CodePoint.carriageReturn :: CodePoint.lineFeed :: rest) = [] :: lines rest :=
    rfl
  rw [lines_append single, ends, foldr_addToFirst_cons]

/-- Ended lines are cut where they were ended, by list induction. -/
theorem lines_ended {texts : List Text} (single : ∀ t ∈ texts, OnOneLine t)
    : lines (ended texts) = texts := by
  induction texts with
  | nil => rfl
  | cons line rest ih =>
      rw [ended_cons, lines_append_lineFeed (single line List.mem_cons_self),
        ih (fun t member => single t (List.mem_cons_of_mem _ member))]

/-- No line that a text is cut into holds a line end, by induction on the text. -/
theorem onOneLine_of_mem_lines {t line : Text} (member : line ∈ lines t) : OnOneLine line := by
  fun_induction lines t generalizing line with
  | case1 => cases member
  | case2 rest ih =>
      rcases List.mem_cons.mp member with rfl | later
      · simp [OnOneLine]
      · exact ih later
  | case3 c rest _ ends ih =>
      rcases List.mem_cons.mp member with rfl | later
      · simp [OnOneLine]
      · exact ih later
  | case4 c rest _ inside ih =>
      have plain : c.isLineEnd = false := by simpa using inside
      cases cut : lines rest with
      | nil =>
          rw [cut, addToFirst, List.mem_singleton] at member
          subst member
          simpa [OnOneLine] using plain
      | cons first others =>
          rw [cut, addToFirst] at member
          rcases List.mem_cons.mp member with rfl | later
          · intro c' inside'
            rcases List.mem_cons.mp inside' with rfl | deeper
            · exact plain
            · exact ih (cut ▸ List.mem_cons_self) c' deeper
          · exact ih (cut ▸ List.mem_cons_of_mem _ later)

-----------------------------------------------------------------------------------------
-- Lines from the middle of a line on
-----------------------------------------------------------------------------------------

/-- The lines of a text behind the beginning of a line. Every line end counts by itself, and what
stands behind the last one is a line even if it is empty.
-/
def linesBehind (front : Text) : Text → List Text
  | [] => [front]
  | c :: rest =>
    if c.isLineEnd then front :: linesBehind [] rest else linesBehind (front ++ [c]) rest

theorem linesBehind_of_ends {c : CodePoint} (ends : c.isLineEnd = true) (front rest : Text)
    : linesBehind front (c :: rest) = front :: linesBehind [] rest := by
  rw [linesBehind, if_pos ends]

theorem linesBehind_of_stays {c : CodePoint} (stays : c.isLineEnd = false) (front rest : Text)
    : linesBehind front (c :: rest) = linesBehind (front ++ [c]) rest := by
  rw [linesBehind, stays]
  rfl

/-- A line feed parts the lines before it from those behind it, by list induction. -/
theorem linesBehind_append_lineFeed (front t rest : Text)
    : linesBehind front (t ++ CodePoint.lineFeed :: rest)
      = linesBehind front t ++ linesBehind [] rest := by
  induction t generalizing front with
  | nil => exact linesBehind_of_ends (by decide) front rest
  | cons c others ih =>
      rw [List.cons_append, linesBehind, linesBehind]
      split
      · rw [ih, List.cons_append]
      · exact ih _

/-- A text on one line only makes the line it goes on with longer, by list induction. -/
theorem linesBehind_append {t : Text} (single : OnOneLine t) (front rest : Text)
    : linesBehind front (t ++ rest) = linesBehind (front ++ t) rest := by
  induction t generalizing front with
  | nil => simp
  | cons c others ih =>
      rw [List.cons_append, linesBehind_of_stays (single c List.mem_cons_self),
        ih fun d member => single d (List.mem_cons_of_mem _ member)]
      simp

/-- Only the first line depends on what stands before a text, by list induction. -/
theorem linesBehind_eq (t : Text)
    : ∃ first others, ∀ front, linesBehind front t = (front ++ first) :: others := by
  induction t with
  | nil => exact ⟨[], [], fun front => by rw [linesBehind, List.append_nil]⟩
  | cons c rest ih =>
      obtain ⟨first, others, behind⟩ := ih
      cases ends : c.isLineEnd with
      | true => exact ⟨[], linesBehind [] rest, fun front => by simp [linesBehind_of_ends ends]⟩
      | false =>
          exact ⟨c :: first, others, fun front => by simp [linesBehind_of_stays ends, behind]⟩

/-- Empty lines aside, a text has the same lines whether a carriage return takes a line feed along
or not, by the recursion of the cut.
-/
theorem filter_linesBehind (front t : Text)
    : (linesBehind front t).filter (· ≠ [])
      = (front.foldr addToFirst (lines t)).filter (· ≠ []) := by
  fun_induction lines t generalizing front with
  | case1 =>
      cases front with
      | nil => rfl
      | cons c rest => rw [foldr_addToFirst_nil (by simp), linesBehind]
  | case2 rest ih =>
      rw [linesBehind_of_ends (by decide), linesBehind_of_ends (by decide),
        foldr_addToFirst_cons, List.filter_cons, List.filter_cons, List.filter_cons, ih]
      simp
  | case3 c rest _ ends ih =>
      rw [linesBehind_of_ends ends, foldr_addToFirst_cons, List.filter_cons, List.filter_cons, ih]
      rfl
  | case4 c rest _ inside ih =>
      rw [linesBehind_of_stays (by simpa using inside), ih, List.foldr_append]
      rfl

end Text

end Recommender
