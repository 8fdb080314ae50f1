import Recommender.Proofs.Script.Acceptance
import Recommender.Proofs.Script.Stripping

/-! Scripts one behind the other. A script that is accepted leaves no literal and no comment open,
so a script behind it is read as if it stood alone.
-/

namespace Recommender.Script

-----------------------------------------------------------------------------------------
-- Lines
-----------------------------------------------------------------------------------------

theorem statements_nil : statements [] = [] := rfl

/-- The statements of a text are those of its lines, whichever way a carriage return is counted. -/
theorem statementsOf_eq (t : Text)
    : statementsOf t = (Text.linesBehind [] t).flatMap statements := by
  have same := congrArg (List.flatMap statements) (Text.filter_linesBehind [] t)
  have keeps (lines : List Text)
      : (lines.filter (· ≠ [])).flatMap statements = lines.flatMap statements := by
    induction lines with
    | nil => rfl
    | cons line rest ih =>
        rw [List.filter_cons]
        split
        · rw [List.flatMap_cons, List.flatMap_cons, ih]
        · next empty =>
            rw [List.flatMap_cons, ih, show line = [] by simpa using empty, statements_nil,
              List.nil_append]
  rwa [keeps, keeps, List.foldr_nil, eq_comm] at same

theorem statementsOf_append (front back : Text)
    : statementsOf (front ++ CodePoint.lineFeed :: back)
      = statementsOf front ++ statementsOf back := by
  simp only [statementsOf_eq, Text.linesBehind_append_lineFeed, List.flatMap_append]

-----------------------------------------------------------------------------------------
-- The end of an accepted script
-----------------------------------------------------------------------------------------

/-- The literal that a mode stands for when a line is cut at semicolons. -/
def openedBy : ScriptMode → Option LineLiteral
  | .literal quote => some ⟨quote, false⟩
  | _ => none

/-- A text that goes on from the beginning of a line and leaves no literal open on any line. -/
def ClosedBehind (front t : Text) : Prop :=
  ∀ line ∈ Text.linesBehind front t, literalBehind none line = none

/-- The beginning of a line behind one more code point. -/
def begunBehind (front : Text) (c : CodePoint) : Text :=
  if c.isLineEnd then [] else front ++ [c]

theorem ClosedBehind.next {front rest : Text} {c : CodePoint}
    (closed : ClosedBehind front (c :: rest))
    : ClosedBehind (begunBehind front c) rest := by
  rw [ClosedBehind, Text.linesBehind] at closed
  unfold begunBehind
  split at closed
  · next ends =>
      rw [if_pos ends]
      exact fun line member => closed line (List.mem_cons_of_mem _ member)
  · next stays =>
      rw [if_neg stays]
      exact closed

/-- A line does not end while a literal is open. -/
theorem ClosedBehind.stays {front rest : Text} {c : CodePoint} {opened : LineLiteral}
    (closed : ClosedBehind front (c :: rest)) (inside : literalBehind none front = some opened)
    : c.isLineEnd = false ∧ ClosedBehind (front ++ [c]) rest := by
  cases ends : c.isLineEnd with
  | true =>
      rw [ClosedBehind, Text.linesBehind_of_ends ends] at closed
      rw [closed front List.mem_cons_self] at inside
      cases inside
  | false =>
      have next := closed.next
      rw [begunBehind, ends] at next
      exact ⟨rfl, next⟩

/-- The two scanners agree on the literal that a code point opens outside of literals. -/
theorem literalBehind_code {front : Text} (outside : literalBehind none front = none)
    (c : CodePoint)
    : literalBehind none (begunBehind front c) = openedBy (modeBehindCode c) := by
  unfold begunBehind modeBehindCode
  cases ends : c.isLineEnd with
  | true =>
      rw [isQuote_of_isBlank (CodePoint.isBlank_of_isLineEnd ends)]
      rfl
  | false =>
      have last : literalBehind none (front ++ [c]) = literalAfter c none := by
        rw [literalBehind_append, outside]
        rfl
      cases quote : isQuote c <;> simp [last, literalAfter, quote, openedBy]

/-- The two scanners agree on whether a code point closes a literal. -/
theorem literalBehind_inside {front : Text} {quote c : CodePoint}
    (inside : literalBehind none front = some ⟨quote, false⟩) (stays : c.isLineEnd = false)
    (plain : c ≠ CodePoint.backslash)
    : literalBehind none (front ++ [c]) = openedBy (modeBehindLiteral quote c) := by
  have noLineFeed := CodePoint.ne_lineFeed stays
  rw [literalBehind_append, inside, literalBehind_cons, literalAfter, if_neg plain]
  unfold modeBehindLiteral
  by_cases same : c = quote
  · simp [same, literalBehind, openedBy]
  · simp [same, noLineFeed, literalBehind, openedBy]

theorem opensComment_append {c : CodePoint} {rest : Text} (plain : ¬ OpensComment c rest)
    (later : Text)
    : ¬ OpensComment c (rest ++ CodePoint.lineFeed :: later) := by
  rintro ⟨rfl, head⟩
  cases rest with
  | nil => rcases head with head | head <;> cases head
  | cons d others => exact plain ⟨rfl, head⟩

theorem endsComment_append {c : CodePoint} {rest : Text} (goesOn : ¬ EndsComment c rest)
    (later : Text)
    : ¬ EndsComment c (rest ++ CodePoint.lineFeed :: later) := by
  rintro ⟨rfl, head⟩
  cases rest with
  | nil => cases head
  | cons d others => exact goesOn ⟨rfl, head⟩

theorem stripped?_nil {mode : ScriptMode} {left : Text} (read : stripped? mode [] = some left)
    : left = [] := by
  cases mode <;> cases read <;> rfl

/-- A text behind which a line feed takes the removal of comments back to where it begins, if the
lines that are left leave no literal open.
-/
def Resets (mode : ScriptMode) (t : Text) : Prop :=
  ∀ {front left : Text},
    stripped? mode t = some left
      → literalBehind none front = openedBy mode
      → ClosedBehind front left
      → ∀ later,
          stripped? mode (t ++ CodePoint.lineFeed :: later)
            = (stripped? .code later).map (left ++ CodePoint.lineFeed :: ·)

theorem resets_nil (mode : ScriptMode) : Resets mode [] := by
  intro front left read opened closed later
  cases mode with
  | code =>
      cases read
      exact stripped?_code (by rintro ⟨same, _⟩; cases same)
  | lineComment =>
      cases read
      exact stripped?_lineEnds later
  | literal quote =>
      cases read
      rw [closed front List.mem_cons_self] at opened
      cases opened
  | blockComment => cases read

theorem Resets.code {c : CodePoint} {rest : Text} (resets : Resets (modeBehindCode c) rest)
    (plain : ¬ OpensComment c rest)
    : Resets .code (c :: rest) := by
  intro front left read opened closed later
  rw [stripped?_code plain, Option.map_eq_some_iff] at read
  obtain ⟨left, read, rfl⟩ := read
  have next := resets read (literalBehind_code opened c) closed.next later
  rw [List.cons_append, stripped?_code (opensComment_append plain later), next]
  simp [Function.comp_def]

theorem Resets.escape {quote c : CodePoint} {rest : Text} (resets : Resets (.literal quote) rest)
    : Resets (.literal quote) (CodePoint.backslash :: c :: rest) := by
  intro front left read opened closed later
  rw [stripped?_escape, Option.map_eq_some_iff] at read
  obtain ⟨left, read, rfl⟩ := read
  obtain ⟨_, behindBackslash⟩ := closed.stays opened
  have escaped : literalBehind none (front ++ [CodePoint.backslash]) = some ⟨quote, true⟩ := by
    rw [literalBehind_append, opened]
    rfl
  obtain ⟨_, inner⟩ := behindBackslash.stays escaped
  have again : literalBehind none (front ++ [CodePoint.backslash] ++ [c])
      = openedBy (.literal quote) := by
    rw [literalBehind_append, escaped]
    rfl
  rw [List.cons_append, List.cons_append, stripped?_escape, resets read again inner later]
  simp [Function.comp_def]

theorem Resets.literal {quote c : CodePoint} {rest : Text}
    (resets : Resets (modeBehindLiteral quote c) rest) (plain : ¬ Escapes c rest)
    : Resets (.literal quote) (c :: rest) := by
  intro front left read opened closed later
  rw [stripped?_literal plain, Option.map_eq_some_iff] at read
  obtain ⟨left, read, rfl⟩ := read
  obtain ⟨stays, inner⟩ := closed.stays opened
  have noBackslash : c ≠ CodePoint.backslash := by
    -- only at the very end does a backslash escape nothing, and then the literal stays open
    rintro rfl
    have last : rest = [] := by
      by_contra some
      exact plain ⟨rfl, some⟩
    subst last
    obtain rfl := stripped?_nil read
    have open' := inner _ List.mem_cons_self
    rw [literalBehind_append, opened] at open'
    cases open'
  have plain' : ¬ Escapes c (rest ++ CodePoint.lineFeed :: later) :=
    fun escapes => noBackslash escapes.1
  have next := resets read (literalBehind_inside opened stays noBackslash) inner later
  rw [List.cons_append, stripped?_literal plain', next]
  simp [Function.comp_def]

theorem Resets.lineEnds {rest : Text} (resets : Resets .code rest)
    : Resets .lineComment (CodePoint.lineFeed :: rest) := by
  intro front left read opened closed later
  rw [stripped?_lineEnds, Option.map_eq_some_iff] at read
  obtain ⟨left, read, rfl⟩ := read
  have next := resets read rfl closed.next later
  rw [List.cons_append, stripped?_lineEnds, next]
  simp [Function.comp_def]

theorem Resets.block {opening : OpenComment} {c : CodePoint} {rest : Text}
    (resets : Resets (.blockComment opening) rest) (goesOn : ¬ EndsComment c rest)
    : Resets (.blockComment opening) (c :: rest) := by
  intro front left read opened closed later
  rw [stripped?_block goesOn, Option.map_eq_some_iff] at read
  obtain ⟨left, read, rfl⟩ := read
  rw [List.cons_append, stripped?_block (endsComment_append goesOn later)]
  by_cases feed : c = CodePoint.lineFeed
  · subst feed
    have next := resets read rfl closed.next later
    rw [next]
    simp [Function.comp_def]
  · have nothing : [c].filter (· = CodePoint.lineFeed) = [] := by simp [feed]
    rw [nothing] at closed ⊢
    rw [resets read opened closed later]
    simp [Function.comp_def]

/-- Behind every text a line feed takes the removal of comments back to where it begins, if the
lines that are left leave no literal open. Step by step.
-/
theorem stripped?_append (mode : ScriptMode) (t : Text) : Resets mode t := by
  induction mode, t using strip_induction with
  | ended mode => exact resets_nil mode
  | lineOpens rest ih => exact ih
  | blockOpens rest ih =>
      intro front left read opened closed later
      rw [stripped?_blockOpens anyOpening] at read
      exact (stripped?_blockOpens anyOpening _).trans (ih anyOpening read opened closed later)
  | code c rest plain ih => exact ih.code plain
  | escape quote c rest ih => exact ih.escape
  | literal quote c rest plain ih => exact ih.literal plain
  | lineEnds rest ih => exact ih.lineEnds
  | line c rest stays ih =>
      intro front left read opened closed later
      rw [stripped?_line stays] at read
      rw [List.cons_append, stripped?_line stays, ih read opened closed later]
  | blockEnds opening rest ih => exact ih
  | block opening c rest goesOn ih => exact ih.block goesOn

/-- A text that is accepted leaves no literal open on any line, if the root has no quote in its
name.
-/
theorem closedBehind_of_accepted {root t : Text} (quoteless : ∀ c ∈ root, isQuote c = false)
    (accepted : ∀ statement ∈ statementsOf t, (pairOf? root statement).isSome = true)
    : ClosedBehind [] t := by
  intro line member
  by_cases empty : line = []
  · subst empty
    rfl
  · have cut : line ∈ Text.lines t := by
      have kept : line ∈ (Text.linesBehind [] t).filter (· ≠ []) :=
        List.mem_filter.mpr ⟨member, by simpa using empty⟩
      rw [Text.filter_linesBehind] at kept
      exact (List.mem_filter.mp kept).1
    refine literalBehind_of_statements quoteless (Text.onOneLine_of_mem_lines cut) ?_
    exact fun statement inside => accepted statement (List.mem_flatMap.mpr ⟨line, cut, inside⟩)

/-- A script behind an accepted one is read as if it stood alone. -/
theorem read_append_pairs? (source : Option Text) {root first : Text}
    (quoteless : ∀ c ∈ root, isQuote c = false) {made : List (Path × Value)}
    (accepted : (read source root first).pairs? = some made) (second : Text)
    : (read source root (first ++ CodePoint.lineFeed :: second)).pairs?
      = (read source root second).pairs?.map (made ++ ·) := by
  rw [read_pairs?, strip_toOption, Option.bind_eq_some_iff] at accepted
  obtain ⟨left, stripped, pairs⟩ := accepted
  have closed := closedBehind_of_accepted quoteless fun _ member => Text.isSome_of_mapM pairs member
  rw [read_pairs?, read_pairs?, strip_toOption, strip_toOption,
    stripped?_append .code first stripped rfl closed second]
  cases stripped? .code second with
  | none => rfl
  | some later =>
      simp only [Option.map_some, Option.bind_some, statementsOf_append, List.mapM_append, pairs]
      cases (statementsOf later).mapM (pairOf? root) <;> rfl

-----------------------------------------------------------------------------------------
-- Records
-----------------------------------------------------------------------------------------

/-- A script behind an accepted one is accepted exactly when it is accepted alone. It then makes its
assignments behind those of the first, and the record is that of the first with the second applied.
-/
theorem toRecord_append (source : Option Text) (root : Path) {first : Text} {r : Record}
    (accepted : toRecord source root.text first = .ok r) (second : Text)
    : ((∃ s, toRecord source root.text (first ++ CodePoint.lineFeed :: second) = .ok s)
        ↔ ∃ s, toRecord source root.text second = .ok s)
      ∧ (∀ s,
          toRecord source root.text (first ++ CodePoint.lineFeed :: second) = .ok s
            ↔ (applyTo r source root.text second).toExcept = .ok s)
      ∧ ∃ made,
          (read source root.text first).pairs? = some made
          ∧ (read source root.text (first ++ CodePoint.lineFeed :: second)).pairs?
            = (read source root.text second).pairs?.map (made ++ ·) := by
  have quoteless : ∀ c ∈ root.text, isQuote c = false :=
    fun c member => isQuote_of_isBare (Text.bare_of_isPath root.valid c member)
  obtain ⟨made, pairs, rfl⟩ := toRecord_eq_ok.mp accepted
  have both := read_append_pairs? source quoteless pairs second
  refine ⟨?_, fun s => ?_, made, pairs, both⟩
  · simp only [toRecord_eq_ok, both]
    cases (read source root.text second).pairs? <;> simp
  · have unfrozen : (Record.ofList made).frozen = false := by rw [Record.ofList_eq]
    rw [toRecord_eq_ok, both, ← toOption_eq_some, applyTo_toExcept unfrozen]
    cases (read source root.text second).pairs? with
    | none => simp
    | some later => simp [Record.ofList_eq, Table.ofList, Table.putAll, eq_comm]

/-- A comment with an open quote and a backslash at the end of its line swallows nothing of the
script behind it.
-/
theorem toRecord_append_open_quote
    : toRecord none "rec"
          ("rec.a = 1; // it's \\" ++ CodePoint.lineFeed :: "rec.b = true; rec.a = x")
      = .ok (Record.ofList [
          (⟨"a", by decide⟩, .int 1),
          (⟨"b", by decide⟩, .bool true),
          (⟨"a", by decide⟩, .reference ⟨"x", by decide +kernel⟩)]) := by
  have accepted : toRecord none "rec" ("rec.a = 1; // it's \\" : Text)
      = .ok (Record.ofList [(⟨"a", by decide⟩, .int 1)]) := rfl
  obtain ⟨_, record, _⟩ :=
    toRecord_append none ⟨"rec", by decide⟩ accepted "rec.b = true; rec.a = x"
  exact (record _).mpr rfl

end Recommender.Script
