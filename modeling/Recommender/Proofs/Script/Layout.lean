import Recommender.Proofs.Script.Concatenation
import Recommender.Proofs.Script.RoundTrip

/-! The layout of a script. Blanks, semicolons, line feeds and comments can be written around
statements and around their equals signs; what the script assigns depends on none of them.
-/

namespace Recommender.Script

-----------------------------------------------------------------------------------------
-- Written scripts
-----------------------------------------------------------------------------------------

/-- What can be written between statements. -/
inductive Filler where
  | space
  | tab
  | semicolon
  | lineFeed
  | blockComment (body : Text) (unended : ¬ [CodePoint.star, CodePoint.slash] <:+: body)
  | lineComment (body : Text) (unended : CodePoint.lineFeed ∉ body)

/-- A filler as it is written. -/
def Filler.text : Filler → Text
  | .space => [CodePoint.space]
  | .tab => [CodePoint.tab]
  | .semicolon => [CodePoint.semicolon]
  | .lineFeed => [CodePoint.lineFeed]
  | .blockComment body _ =>
    [CodePoint.slash, CodePoint.star] ++ body ++ [CodePoint.star, CodePoint.slash]
  | .lineComment body _ => [CodePoint.slash, CodePoint.slash] ++ body ++ [CodePoint.lineFeed]

/-- Whether a filler can also be written inside a statement, around its equals sign. -/
def Filler.isGap : Filler → Bool
  | .space => true
  | .tab => true
  | .semicolon => false
  | .lineFeed => false
  | .blockComment body _ => CodePoint.lineFeed ∉ body
  | .lineComment _ _ => false

/-- Whether a filler parts two statements. -/
def Filler.divides : Filler → Bool
  | .space => false
  | .tab => false
  | .semicolon => true
  | .lineFeed => true
  | .blockComment body _ => CodePoint.lineFeed ∈ body
  | .lineComment _ _ => true

/-- A text that is accepted as a value. -/
structure Token where
  text : Text
  value : Value
  trimmed : text.trim = text
  onOneLine : Text.OnOneLine text
  accepted : Script.value text = .ok value

/-- A statement with the gaps around its equals sign and the fillers behind it. -/
structure LaidStatement where
  path : Path
  token : Token
  before : List Filler
  after : List Filler
  behind : List Filler
  gaps : ∀ filler ∈ before ++ after, filler.isGap = true

/-- A script with the fillers at its front and the line comment that it may end with. Two statements
are parted by a filler at least.
-/
structure Layout where
  front : List Filler
  statements : List LaidStatement
  last : Option { body : Text // CodePoint.lineFeed ∉ body }
  divided : ∀ s ∈ statements.dropLast, ∃ filler ∈ s.behind, filler.divides = true

/-- Fillers as they are written. -/
def fillersText (fillers : List Filler) : Text :=
  fillers.flatMap Filler.text

/-- A statement as it is written below a root, without the fillers behind it. -/
def LaidStatement.text (root : Path) (s : LaidStatement) : Text :=
  target root s.path ++ fillersText s.before ++ [CodePoint.equals] ++ fillersText s.after
    ++ s.token.text

/-- Statements as they are written below a root, with the fillers behind each. -/
def laidText (root : Path) (laid : List LaidStatement) : Text :=
  laid.flatMap fun s => s.text root ++ fillersText s.behind

/-- A script as it is written below a root. -/
def Layout.text (root : Path) (layout : Layout) : Text :=
  fillersText layout.front ++ laidText root layout.statements
    ++ match layout.last with
      | none => []
      | some body => CodePoint.slash :: CodePoint.slash :: body.val

-----------------------------------------------------------------------------------------
-- Without comments
-----------------------------------------------------------------------------------------

/-- What is left of a filler when comments are removed. -/
def Filler.left : Filler → Text
  | .space => [CodePoint.space]
  | .tab => [CodePoint.tab]
  | .semicolon => [CodePoint.semicolon]
  | .lineFeed => [CodePoint.lineFeed]
  | .blockComment body _ => body.filter (· = CodePoint.lineFeed)
  | .lineComment _ _ => [CodePoint.lineFeed]

/-- A text is left as another one when comments are removed, whatever stands behind it. -/
def LeavesOf (written left : Text) : Prop :=
  ∀ rest, stripped? .code (written ++ rest) = (stripped? .code rest).map (left ++ ·)

theorem LeavesOf.append {written left written' left' : Text} (first : LeavesOf written left)
    (second : LeavesOf written' left')
    : LeavesOf (written ++ written') (left ++ left') := by
  intro rest
  rw [List.append_assoc, first, second, Option.map_map]
  simp [Function.comp_def]

theorem LeavesOf.nil : LeavesOf [] [] := by
  intro rest
  simp

theorem leavesOf_inert {t : Text} (inert : Inert t) : LeavesOf t t := by
  intro rest
  rw [stripped?, stripFrom_inert inert, toOption_map]
  rfl

/-- Outside literals a code point that is no slash and opens no literal is kept. -/
theorem leavesOf_singleton {c : CodePoint} (noSlash : c ≠ CodePoint.slash)
    (unquoted : isQuote c = false)
    : LeavesOf [c] [c] := by
  intro rest
  have plain : ¬ OpensComment c rest := fun opens => noSlash opens.1
  rw [List.singleton_append, stripped?_code plain, modeBehindCode, unquoted]
  rfl

/-- Of a block comment the line feeds are left, by induction on its body. -/
theorem stripped?_blockComment (opening : OpenComment) {body : Text}
    (unended : ¬ [CodePoint.star, CodePoint.slash] <:+: body) (rest : Text)
    : stripped? (.blockComment opening) (body ++ CodePoint.star :: CodePoint.slash :: rest)
      = (stripped? .code rest).map (body.filter (· = CodePoint.lineFeed) ++ ·) := by
  induction body with
  | nil => simp [stripped?_blockEnds]
  | cons c others ih =>
      have goesOn : ¬ EndsComment c (others ++ CodePoint.star :: CodePoint.slash :: rest) := by
        rintro ⟨rfl, head⟩
        cases others with
        | nil => cases head
        | cons d others =>
            obtain rfl := Option.some.inj head
            exact unended ⟨[], others, rfl⟩
      have inner : ¬ [CodePoint.star, CodePoint.slash] <:+: others :=
        fun ended => unended (List.infix_cons ended)
      have cut : (c :: others).filter (· = CodePoint.lineFeed)
          = [c].filter (· = CodePoint.lineFeed) ++ others.filter (· = CodePoint.lineFeed) :=
        List.filter_append [c] others
      rw [List.cons_append, stripped?_block goesOn, ih inner, Option.map_map, cut]
      simp [Function.comp_def]

theorem Filler.leaves (filler : Filler) : LeavesOf filler.text filler.left := by
  cases filler with
  | space => exact leavesOf_singleton (by decide) (by decide)
  | tab => exact leavesOf_singleton (by decide) (by decide)
  | semicolon => exact leavesOf_singleton (by decide) (by decide)
  | lineFeed => exact leavesOf_singleton (by decide) (by decide)
  | blockComment body unended =>
      intro rest
      simp only [Filler.text, Filler.left, List.append_assoc, List.cons_append, List.nil_append]
      rw [stripped?_blockOpens anyOpening, stripped?_blockComment anyOpening unended]
  | lineComment body unended =>
      intro rest
      simp only [Filler.text, Filler.left, List.append_assoc, List.cons_append, List.nil_append]
      rw [stripped?_lineOpens, stripped?_lineComment unended]

/-- Fillers leave what each of them leaves, by list induction. -/
theorem leavesOf_fillers (fillers : List Filler)
    : LeavesOf (fillersText fillers) (fillers.flatMap Filler.left) := by
  induction fillers with
  | nil => exact .nil
  | cons filler rest ih => exact filler.leaves.append ih

/-- What is left of a statement when its comments are removed. -/
def LaidStatement.left (root : Path) (s : LaidStatement) : Text :=
  target root s.path ++ s.before.flatMap Filler.left ++ [CodePoint.equals]
    ++ s.after.flatMap Filler.left ++ s.token.text

/-- What is left of statements and of the fillers behind each when comments are removed. -/
def laidLeft (root : Path) (laid : List LaidStatement) : Text :=
  laid.flatMap fun s => s.left root ++ s.behind.flatMap Filler.left

/-- A value that stands by itself is read without trimming. -/
theorem Token.trimmedValue (token : Token) : Script.trimmedValue token.text = .ok token.value := by
  have accepted := token.accepted
  rwa [Script.value, token.trimmed] at accepted

theorem Token.inert (token : Token) : Inert token.text :=
  inert_of_trimmedValue token.trimmedValue token.onOneLine

theorem Token.isTrimmed (token : Token) : Text.Trimmed token.text :=
  trimmed_of_trimmedValue token.trimmedValue

theorem Token.ne_nil (token : Token) : token.text ≠ [] := by
  intro empty
  have accepted := token.trimmedValue
  rw [empty] at accepted
  cases accepted

/-- A statement leaves what its gaps leave and everything else as it is. -/
theorem LaidStatement.leaves (root : Path) (s : LaidStatement)
    : LeavesOf (s.text root) (s.left root) := by
  have front := leavesOf_inert (inert_of_bare (bare_target root s.path))
  have equals : LeavesOf [CodePoint.equals] [CodePoint.equals] :=
    leavesOf_singleton (by decide) (by decide)
  have before := leavesOf_fillers s.before
  have after := leavesOf_fillers s.after
  exact (((front.append before).append equals).append after).append (leavesOf_inert s.token.inert)

-----------------------------------------------------------------------------------------
-- Separators
-----------------------------------------------------------------------------------------

/-- A code point that may stand in a gap. -/
def isGapMark (c : CodePoint) : Bool :=
  c = CodePoint.space || c = CodePoint.tab

/-- A code point that parts statements. -/
def isDivider (c : CodePoint) : Bool :=
  c = CodePoint.semicolon || c = CodePoint.lineFeed

theorem isBlank_of_isGapMark {c : CodePoint} (gap : isGapMark c = true) : c.isBlank = true := by
  simp only [isGapMark, Bool.or_eq_true, decide_eq_true_eq] at gap
  rcases gap with rfl | rfl <;> decide

theorem inert_of_isGapMark {t : Text} (gap : ∀ c ∈ t, isGapMark c = true) : Inert t := by
  induction t with
  | nil => exact .nil
  | cons c rest ih =>
      have first := gap c List.mem_cons_self
      simp only [isGapMark, Bool.or_eq_true, decide_eq_true_eq] at first
      have inner := ih fun d member => gap d (List.mem_cons_of_mem _ member)
      rcases first with rfl | rfl <;>
        exact .plain (by decide) (by decide) (by decide) (by decide) inner

/-- Blanks at the front of a line belong to no statement. -/
theorem statements_gap {c : CodePoint} (gap : isGapMark c = true) (line : Text)
    : statements (c :: line) = statements line := by
  have blank := isBlank_of_isGapMark gap
  have noSemicolon : c ≠ CodePoint.semicolon := by
    rintro rfl
    cases gap
  have cut : pieces none (c :: line) = Text.addToFirst c (pieces none line) := by
    simp [pieces, literalAfter, isQuote_of_isBlank blank, noSemicolon]
  obtain ⟨first, others, form⟩ := List.exists_cons_of_ne_nil (pieces_ne_nil none line)
  have same : Text.trim (c :: first) = first.trim := by
    simp [Text.trim, Text.trimStart, blank]
  rw [statements, statements, cut, form, Text.addToFirst, List.map_cons, List.map_cons, same]

theorem statementsOf_gap {c : CodePoint} (gap : isGapMark c = true) (rest : Text)
    : statementsOf (c :: rest) = statementsOf rest := by
  obtain ⟨first, others, behind⟩ := Text.linesBehind_eq rest
  have inert : Inert [c] := inert_of_isGapMark (by simpa using gap)
  have stays : c.isLineEnd = false := inert.onOneLine c List.mem_cons_self
  rw [statementsOf_eq, statementsOf_eq, Text.linesBehind_of_stays stays, behind, behind,
    List.flatMap_cons, List.flatMap_cons, List.nil_append, List.nil_append, List.singleton_append,
    statements_gap gap]

theorem statementsOf_inert {t : Text} (inert : Inert t) : statementsOf t = statements t := by
  rw [statementsOf_eq, ← List.append_nil t, Text.linesBehind_append inert.onOneLine]
  simp [Text.linesBehind]

/-- A semicolon or a line feed behind an inert text ends the statement before it. -/
theorem statementsOf_divided {front : Text} (inert : Inert front) {c : CodePoint}
    (divides : isDivider c = true) (rest : Text)
    : statementsOf (front ++ c :: rest) = statements front ++ statementsOf rest := by
  simp only [isDivider, Bool.or_eq_true, decide_eq_true_eq] at divides
  rcases divides with rfl | rfl
  · obtain ⟨first, others, behind⟩ := Text.linesBehind_eq rest
    have stays : CodePoint.semicolon.isLineEnd = false := by decide
    have cut : statements (front ++ CodePoint.semicolon :: first)
        = statements front ++ statements first := by
      rw [statements_of_inert inert, statements, pieces_semicolon inert, List.map_cons,
        ← List.singleton_append, List.filter_append]
      rfl
    rw [statementsOf_eq, statementsOf_eq, Text.linesBehind_append inert.onOneLine,
      Text.linesBehind_of_stays stays, behind, behind]
    simp [cut]
  · rw [statementsOf_append, statementsOf_inert inert]

/-- Separators in front of a text make no statement, by list induction. -/
theorem statementsOf_separators {separators : Text}
    (each : ∀ c ∈ separators, isGapMark c = true ∨ isDivider c = true) (rest : Text)
    : statementsOf (separators ++ rest) = statementsOf rest := by
  induction separators with
  | nil => rfl
  | cons c others ih =>
      have later := ih fun d member => each d (List.mem_cons_of_mem _ member)
      rcases each c List.mem_cons_self with gap | divides
      · rw [List.cons_append, statementsOf_gap gap, later]
      · have apart := statementsOf_divided .nil divides (others ++ rest)
        rwa [statements_nil, List.nil_append, List.nil_append, later] at apart

/-- A statement is read up to the separators behind it, if one of them parts it from what follows or
nothing follows. By list induction, with the blanks that were passed so far.
-/
theorem statementsOf_statement {statement : Text} (inert : Inert statement)
    (trimmed : Text.Trimmed statement) (nonempty : statement ≠ []) {separators rest : Text}
    (each : ∀ c ∈ separators, isGapMark c = true ∨ isDivider c = true)
    (parted : (∃ c ∈ separators, isDivider c = true) ∨ rest = [])
    : statementsOf (statement ++ separators ++ rest) = statement :: statementsOf rest := by
  have padded {blanks : Text} (gap : ∀ c ∈ blanks, isGapMark c = true)
      : Inert (statement ++ blanks) ∧ statements (statement ++ blanks) = [statement] := by
    have inertAll := inert.append (inert_of_isGapMark gap)
    have trim := trimmed.trim_blanks nonempty [] blanks (by simp)
      fun c member => isBlank_of_isGapMark (gap c member)
    rw [List.nil_append] at trim
    exact ⟨inertAll, by simp [statements_of_inert inertAll, trim, nonempty]⟩
  suffices behind : ∀ blanks : Text,
      (∀ c ∈ blanks, isGapMark c = true)
        → statementsOf (statement ++ blanks ++ separators ++ rest)
          = statement :: statementsOf rest by
    simpa using behind [] (by simp)
  induction separators with
  | nil =>
      intro blanks gap
      obtain ⟨inertAll, single⟩ := padded gap
      rcases parted with ⟨c, member, _⟩ | rfl
      · cases member
      · rw [List.append_nil, List.append_nil, statementsOf_inert inertAll, single]
        rfl
  | cons c others ih =>
      intro blanks gap
      have eachOthers : ∀ d ∈ others, isGapMark d = true ∨ isDivider d = true :=
        fun d member => each d (List.mem_cons_of_mem _ member)
      cases divides : isDivider c with
      | true =>
          obtain ⟨inertAll, single⟩ := padded gap
          rw [List.append_assoc, List.cons_append, statementsOf_divided inertAll divides, single,
            statementsOf_separators eachOthers]
          rfl
      | false =>
          have first : isGapMark c = true := by simpa [divides] using each c List.mem_cons_self
          have partedOthers : (∃ d ∈ others, isDivider d = true) ∨ rest = [] := by
            simpa [divides] using parted
          have longer := ih eachOthers partedOthers (blanks ++ [c]) (by
            intro d member
            rcases List.mem_append.mp member with inside | last
            · exact gap d inside
            · rwa [List.mem_singleton.mp last])
          simpa using longer

-----------------------------------------------------------------------------------------
-- Statements
-----------------------------------------------------------------------------------------

theorem Filler.left_of_isGap {filler : Filler} (gap : filler.isGap = true)
    : ∀ c ∈ filler.left, isGapMark c = true := by
  cases filler with
  | space => simp [Filler.left, isGapMark]
  | tab => simp [Filler.left, isGapMark]
  | semicolon => cases gap
  | lineFeed => cases gap
  | blockComment body _ =>
      have nothing : body.filter (· = CodePoint.lineFeed) = [] := by
        simp only [Filler.isGap, decide_eq_true_eq] at gap
        exact List.filter_eq_nil_iff.mpr fun c member feed =>
          gap (of_decide_eq_true feed ▸ member)
      simp [Filler.left, nothing]
  | lineComment => cases gap

theorem Filler.left_separates (filler : Filler)
    : ∀ c ∈ filler.left, isGapMark c = true ∨ isDivider c = true := by
  cases filler with
  | blockComment body _ =>
      intro c member
      have feed := of_decide_eq_true (List.mem_filter.mp member).2
      exact Or.inr (feed ▸ rfl)
  | _ => simp [Filler.left, isGapMark, isDivider]

theorem Filler.left_of_divides {filler : Filler} (divides : filler.divides = true)
    : ∃ c ∈ filler.left, isDivider c = true := by
  cases filler with
  | space => cases divides
  | tab => cases divides
  | semicolon => simp [Filler.left, isDivider]
  | lineFeed => simp [Filler.left, isDivider]
  | blockComment body _ =>
      have feed : CodePoint.lineFeed ∈ body := by simpa [Filler.divides] using divides
      exact ⟨CodePoint.lineFeed, by simp [Filler.left, feed], rfl⟩
  | lineComment => simp [Filler.left, isDivider]

theorem left_of_gaps {fillers : List Filler} (gaps : ∀ filler ∈ fillers, filler.isGap = true)
    : ∀ c ∈ fillers.flatMap Filler.left, isGapMark c = true := by
  intro c member
  obtain ⟨filler, inside, left⟩ := List.mem_flatMap.mp member
  exact Filler.left_of_isGap (gaps filler inside) c left

theorem left_of_fillers (fillers : List Filler)
    : ∀ c ∈ fillers.flatMap Filler.left, isGapMark c = true ∨ isDivider c = true := by
  intro c member
  obtain ⟨filler, _, left⟩ := List.mem_flatMap.mp member
  exact filler.left_separates c left

namespace LaidStatement

variable (root : Path) (s : LaidStatement)

theorem before_left : ∀ c ∈ s.before.flatMap Filler.left, isGapMark c = true :=
  left_of_gaps fun filler member => s.gaps filler (List.mem_append_left _ member)

theorem after_left : ∀ c ∈ s.after.flatMap Filler.left, isGapMark c = true :=
  left_of_gaps fun filler member => s.gaps filler (List.mem_append_right _ member)

theorem left_ne_nil : s.left root ≠ [] := by
  simp [left]

theorem left_inert : Inert (s.left root) := by
  have front := inert_of_bare (bare_target root s.path)
  have equals : Inert [CodePoint.equals] :=
    .plain (by decide) (by decide) (by decide) (by decide) .nil
  have before := inert_of_isGapMark s.before_left
  have after := inert_of_isGapMark s.after_left
  exact (((front.append before).append equals).append after).append s.token.inert

theorem left_trimmed : Text.Trimmed (s.left root) := by
  have whole := (bare_target root s.path).trimmed.append s.token.isTrimmed
    (target_ne_nil root s.path) s.token.ne_nil
    (s.before.flatMap Filler.left ++ [CodePoint.equals] ++ s.after.flatMap Filler.left)
  simpa [left] using whole

/-- A statement assigns its value at its path, whatever its gaps are. -/
theorem pairOf?_left : pairOf? root.text (s.left root) = some (s.path, s.token.value) := by
  have bare := bare_target root s.path
  have noEquals : ∀ c ∈ target root s.path ++ s.before.flatMap Filler.left,
      c ≠ CodePoint.equals := by
    intro c member
    rcases List.mem_append.mp member with inside | gap
    · exact CodePoint.ne_of_isBare (bare c inside) (by decide)
    · rintro rfl
      cases s.before_left _ gap
  have trimmedTarget : Text.trim (target root s.path ++ s.before.flatMap Filler.left)
      = target root s.path :=
    bare.trimmed.trim_blanks (target_ne_nil root s.path) [] _ (by simp)
      fun c member => isBlank_of_isGapMark (s.before_left c member)
  have trimmedValue : Text.trim (s.after.flatMap Filler.left ++ s.token.text) = s.token.text := by
    have trim := s.token.isTrimmed.trim_blanks s.token.ne_nil (s.after.flatMap Filler.left) []
      (fun c member => isBlank_of_isGapMark (s.after_left c member)) (by simp)
    rwa [List.append_nil] at trim
  have below : Text.dropLead? (root.text ++ ".") (target root s.path) = some s.path.text :=
    Text.dropLead?_append _ _
  have form : s.left root
      = (target root s.path ++ s.before.flatMap Filler.left)
        ++ CodePoint.equals :: (s.after.flatMap Filler.left ++ s.token.text) := by
    simp [left]
  have some : target root s.path ++ s.before.flatMap Filler.left ≠ [] :=
    List.append_ne_nil_of_left_ne_nil (target_ne_nil root s.path) _
  rw [pairOf?, form, sides?_append some noEquals]
  simp [trimmedTarget, below, Path.ofText?_text, value, trimmedValue, s.token.trimmedValue,
    Except.toOption]

end LaidStatement

/-- The statements of a script that is laid out are read one by one, by list induction. -/
theorem statementsOf_laidLeft (root : Path) {laid : List LaidStatement}
    (divided : ∀ s ∈ laid.dropLast, ∃ filler ∈ s.behind, filler.divides = true)
    : statementsOf (laidLeft root laid) = laid.map (·.left root) := by
  induction laid with
  | nil => rfl
  | cons s others ih =>
      have parted : (∃ c ∈ s.behind.flatMap Filler.left, isDivider c = true)
          ∨ laidLeft root others = [] := by
        cases others with
        | nil => exact Or.inr rfl
        | cons next later =>
            obtain ⟨filler, member, divides⟩ := divided s (by simp)
            obtain ⟨c, inside, part⟩ := Filler.left_of_divides divides
            exact Or.inl ⟨c, List.mem_flatMap.mpr ⟨filler, member, inside⟩, part⟩
      have dividedOthers : ∀ t ∈ others.dropLast, ∃ filler ∈ t.behind, filler.divides = true := by
        cases others with
        | nil => simp
        | cons next later => exact fun t member => divided t (by simp [member])
      have step : laidLeft root (s :: others)
          = s.left root ++ s.behind.flatMap Filler.left ++ laidLeft root others :=
        List.flatMap_cons
      rw [step, statementsOf_statement (s.left_inert root) (s.left_trimmed root)
        (s.left_ne_nil root) (left_of_fillers s.behind) parted, ih dividedOthers, List.map_cons]

/-- Statements leave what each of them and the fillers behind it leave, by list induction. -/
theorem leavesOf_laid (root : Path) (laid : List LaidStatement)
    : LeavesOf (laidText root laid) (laidLeft root laid) := by
  induction laid with
  | nil => exact .nil
  | cons s others ih => exact ((s.leaves root).append (leavesOf_fillers s.behind)).append ih

/-- What a script that is laid out leaves when its comments are removed. -/
theorem Layout.stripped? (root : Path) (layout : Layout)
    : Script.stripped? .code (layout.text root)
      = some (layout.front.flatMap Filler.left ++ laidLeft root layout.statements) := by
  have ended : Script.stripped? .code (match layout.last with
      | none => []
      | some body => CodePoint.slash :: CodePoint.slash :: body.val) = some [] := by
    cases layout.last with
    | none => rfl
    | some body => rw [stripped?_lineOpens, stripped?_lastComment body.property]
  have whole := (leavesOf_fillers layout.front).append (leavesOf_laid root layout.statements)
  rw [Layout.text, whole, ended, Option.map_some, List.append_nil]

/-- A script comes to what its statements assign, whatever its layout is. -/
theorem read_layout (source : Option Text) (root : Path) (layout : Layout)
    : ∃ made,
        read source root.text (layout.text root) = ⟨made, none⟩
        ∧ made.map (fun a => (a.path, a.value))
          = layout.statements.map fun s => (s.path, s.token.value) := by
  have each (laid : List LaidStatement)
      : (laid.map (·.left root)).mapM (pairOf? root.text)
        = some (laid.map fun s => (s.path, s.token.value)) := by
    induction laid with
    | nil => rfl
    | cons s others ih => simp [s.pairOf?_left root, ih]
  have pairs : (read source root.text (layout.text root)).pairs?
      = some (layout.statements.map fun s => (s.path, s.token.value)) := by
    rw [read_pairs?, strip_toOption, layout.stripped? root, Option.bind_some,
      statementsOf_separators (left_of_fillers layout.front),
      statementsOf_laidLeft root layout.divided, each]
  exact Reading.pairs?_eq_some.mp pairs

/-- Quotes, equals signs and the marks of other comments mean nothing in a comment. -/
example
    : let token : Token :=
        ⟨"1", .int 1, rfl, fun c member => List.mem_singleton.mp member ▸ rfl, rfl⟩
      let statement : LaidStatement :=
        {
          path := ⟨"a", by decide⟩,
          token,
          before := [.blockComment "= '//" (by decide)],
          after := [.space],
          behind := [.lineComment " it's /*" (by decide)],
          gaps := by decide
        }
      Layout.text ⟨defaultRoot, by decide⟩ ⟨[.semicolon], [statement], none, by simp⟩
        = ";rec.a/*= '//*/= 1// it's /*\n" :=
  rfl

end Recommender.Script
