import Recommender.Proofs.Script.Concatenation

/-! Line ends of several systems. A script whose carriage returns have become line feeds comes to
the same assignments, if no carriage return stands by itself where the removal of comments waits for
a line feed.
-/

namespace Recommender

-----------------------------------------------------------------------------------------
-- Carriage returns
-----------------------------------------------------------------------------------------

namespace Text

/-- A text that begins with a carriage return without a line feed behind it. -/
def LoneReturn (t : Text) : Prop :=
  t.head? = some CodePoint.carriageReturn ∧ t.tail.head? ≠ some CodePoint.lineFeed

instance (t : Text) : Decidable (LoneReturn t) :=
  inferInstanceAs (Decidable (_ ∧ _))

theorem unifyNewlines_cons {c : CodePoint} (other : c ≠ CodePoint.carriageReturn) (rest : Text)
    : unifyNewlines (c :: rest) = c :: unifyNewlines rest := by
  rw [unifyNewlines]
  · exact fun _ same _ => other same
  · exact other

theorem unifyNewlines_return {rest : Text} (lone : rest.head? ≠ some CodePoint.lineFeed)
    : unifyNewlines (CodePoint.carriageReturn :: rest)
      = CodePoint.lineFeed :: unifyNewlines rest :=
  unifyNewlines.eq_3 rest fun _ same => lone (same ▸ rfl)

theorem unifyNewlines_pair (rest : Text)
    : unifyNewlines (CodePoint.carriageReturn :: CodePoint.lineFeed :: rest)
      = CodePoint.lineFeed :: unifyNewlines rest :=
  rfl

/-- A line feed is behind a carriage return, or the carriage return is lone. -/
theorem lineFeed_or_lone (rest : Text)
    : (∃ later, rest = CodePoint.lineFeed :: later) ∨ rest.head? ≠ some CodePoint.lineFeed := by
  cases rest with
  | nil => exact Or.inr (by simp)
  | cons c later =>
      by_cases feed : c = CodePoint.lineFeed
      · exact Or.inl ⟨later, feed ▸ rfl⟩
      · exact Or.inr (by simpa using feed)

/-- Code points other than line feeds and carriage returns stay at the head of a text. -/
theorem head?_unifyNewlines {mark : CodePoint} (noFeed : mark ≠ CodePoint.lineFeed)
    (noReturn : mark ≠ CodePoint.carriageReturn) (t : Text)
    : t.unifyNewlines.head? = some mark ↔ t.head? = some mark := by
  cases t with
  | nil => rfl
  | cons c rest =>
      by_cases ret : c = CodePoint.carriageReturn
      · subst ret
        rcases lineFeed_or_lone rest with ⟨later, rfl⟩ | lone
        · simp [unifyNewlines_pair, noFeed.symm, noReturn.symm]
        · simp [unifyNewlines_return lone, noFeed.symm, noReturn.symm]
      · simp [unifyNewlines_cons ret]

/-- A line end is at the head of a text that began with one. -/
theorem unifyNewlines_of_ends {c : CodePoint} (ends : c.isLineEnd = true) (rest : Text)
    : ∃ d later, d.isLineEnd = true ∧ unifyNewlines (c :: rest) = d :: later := by
  by_cases ret : c = CodePoint.carriageReturn
  · subst ret
    rcases lineFeed_or_lone rest with ⟨later, rfl⟩ | lone
    · exact ⟨CodePoint.lineFeed, unifyNewlines later, by decide, rfl⟩
    · exact ⟨CodePoint.lineFeed, rest.unifyNewlines, by decide, unifyNewlines_return lone⟩
  · exact ⟨c, rest.unifyNewlines, ends, unifyNewlines_cons ret rest⟩

theorem unifyNewlines_eq_nil {t : Text} : t.unifyNewlines = [] ↔ t = [] := by
  cases t with
  | nil => exact ⟨fun _ => rfl, fun _ => rfl⟩
  | cons c rest =>
      by_cases ret : c = CodePoint.carriageReturn
      · subst ret
        rcases lineFeed_or_lone rest with ⟨later, rfl⟩ | lone
        · simp [unifyNewlines_pair]
        · simp [unifyNewlines_return lone]
      · simp [unifyNewlines_cons ret]

end Text

namespace Script

theorem opensComment_unifyNewlines {c : CodePoint} {rest : Text}
    : OpensComment c rest.unifyNewlines ↔ OpensComment c rest := by
  rw [OpensComment, OpensComment, Text.head?_unifyNewlines (by decide) (by decide),
    Text.head?_unifyNewlines (by decide) (by decide)]

theorem endsComment_unifyNewlines {c : CodePoint} {rest : Text}
    : EndsComment c rest.unifyNewlines ↔ EndsComment c rest := by
  rw [EndsComment, EndsComment, Text.head?_unifyNewlines (by decide) (by decide)]

theorem escapes_unifyNewlines {c : CodePoint} {rest : Text}
    : Escapes c rest.unifyNewlines ↔ Escapes c rest := by
  rw [Escapes, Escapes, Ne, Ne, Text.unifyNewlines_eq_nil]

-----------------------------------------------------------------------------------------
-- Steps of the removal of comments
-----------------------------------------------------------------------------------------

/-- The steps in which comments are removed, each with its mode and with the text from there on. -/
def steps (mode : ScriptMode) : Text → List (ScriptMode × Text)
  | [] => []
  | c :: rest =>
    (mode, c :: rest) ::
      match mode with
      | .code =>
        match c, rest with
        | CodePoint.slash, CodePoint.slash :: rest => steps .lineComment rest
        | CodePoint.slash, CodePoint.star :: rest => steps (.blockComment anyOpening) rest
        | c, rest => steps (modeBehindCode c) rest
      | .literal quote =>
        match c, rest with
        | CodePoint.backslash, _ :: rest => steps (.literal quote) rest
        | c, rest => steps (modeBehindLiteral quote c) rest
      | .lineComment => steps (if c = CodePoint.lineFeed then .code else .lineComment) rest
      | .blockComment opening =>
        match c, rest with
        | CodePoint.star, CodePoint.slash :: rest => steps .code rest
        | _, rest => steps (.blockComment opening) rest

theorem steps_code {c : CodePoint} {rest : Text} (plain : ¬ OpensComment c rest)
    : steps .code (c :: rest) = (.code, c :: rest) :: steps (modeBehindCode c) rest := by
  rw [steps]
  · rintro _ rfl rfl
    exact plain ⟨rfl, Or.inl rfl⟩
  · rintro _ rfl rfl
    exact plain ⟨rfl, Or.inr rfl⟩

theorem steps_literal {c : CodePoint} {rest : Text} (plain : ¬ Escapes c rest) (quote : CodePoint)
    : steps (.literal quote) (c :: rest)
      = (.literal quote, c :: rest) :: steps (modeBehindLiteral quote c) rest := by
  rw [steps]
  rintro _ _ rfl rfl
  exact plain ⟨rfl, by simp⟩

theorem steps_line {c : CodePoint} {rest : Text} (stays : c ≠ CodePoint.lineFeed)
    : steps .lineComment (c :: rest) = (.lineComment, c :: rest) :: steps .lineComment rest := by
  rw [steps, if_neg stays]

theorem steps_block {c : CodePoint} {rest : Text} (goesOn : ¬ EndsComment c rest)
    (opening : OpenComment)
    : steps (.blockComment opening) (c :: rest)
      = (.blockComment opening, c :: rest) :: steps (.blockComment opening) rest := by
  rw [steps]
  rintro _ rfl rfl
  exact goesOn ⟨rfl, rfl⟩

/-- Whether a carriage return by itself ends a line in a mode just as a line feed does. In a literal
it does so for every script that is accepted, unless the root has a quote in its name.
-/
def returnEndsLine (root : Text) : ScriptMode → Bool
  | .code => true
  | .literal _ => root.all (!isQuote ·)
  | .lineComment => false
  | .blockComment _ => false

/-- A text in which every carriage return that stands by itself ends a line. -/
def ReturnsEndLines (root : Text) (mode : ScriptMode) (t : Text) : Prop :=
  ∀ step ∈ steps mode t, step.2.LoneReturn → returnEndsLine root step.1 = true

instance (root : Text) (mode : ScriptMode) (t : Text) : Decidable (ReturnsEndLines root mode t) :=
  inferInstanceAs (Decidable (∀ step ∈ steps mode t, _))

theorem ReturnsEndLines.next {root t rest : Text} {mode next : ScriptMode}
    (ends : ReturnsEndLines root mode t) (step : steps mode t = (mode, t) :: steps next rest)
    : ReturnsEndLines root next rest := by
  intro later member
  exact ends later (step ▸ List.mem_cons_of_mem _ member)

-----------------------------------------------------------------------------------------
-- Assignments behind the beginning of a line
-----------------------------------------------------------------------------------------

/-- The paths and values that a line assigns. -/
def linePairs (root line : Text) : Option (List (Path × Value)) :=
  (statements line).mapM (pairOf? root)

/-- The paths and values that a text without comments assigns behind the beginning of a line. -/
def pairsBehind (root front : Text) (left : Option Text) : Option (List (Path × Value)) :=
  left.bind fun left => ((Text.linesBehind front left).flatMap statements).mapM (pairOf? root)

theorem pairsBehind_stays {c : CodePoint} (stays : c.isLineEnd = false) (root front : Text)
    (left : Option Text)
    : pairsBehind root front (left.map (c :: ·)) = pairsBehind root (front ++ [c]) left := by
  cases left with
  | none => rfl
  | some left =>
      simp only [pairsBehind, Option.map_some, Option.bind_some, Text.linesBehind_of_stays stays]

theorem pairsBehind_ends {c : CodePoint} (ends : c.isLineEnd = true) (root front : Text)
    (left : Option Text)
    : pairsBehind root front (left.map (c :: ·))
      = (linePairs root front).bind fun made => (pairsBehind root [] left).map (made ++ ·) := by
  cases left with
  | none => cases linePairs root front <;> rfl
  | some left =>
      simp only [pairsBehind, Option.map_some, Option.bind_some, Text.linesBehind_of_ends ends,
        List.flatMap_cons, List.mapM_append, linePairs]
      cases (statements front).mapM (pairOf? root) with
      | none => rfl
      | some made =>
          cases ((Text.linesBehind [] left).flatMap statements).mapM (pairOf? root) <;> rfl

/-- A line end behind a line that assigns nothing right leaves nothing to assign. -/
theorem pairsBehind_rejected {c : CodePoint} (ends : c.isLineEnd = true) {root front : Text}
    (rejected : linePairs root front = none) (left : Option Text)
    : pairsBehind root front (left.map (c :: ·)) = none := by
  rw [pairsBehind_ends ends, rejected]
  rfl

theorem read_pairsBehind (source : Option Text) (root t : Text)
    : (read source root t).pairs? = pairsBehind root [] (stripped? .code t) := by
  rw [read_pairs?, strip_toOption, pairsBehind]
  simp only [statementsOf_eq]

/-- What a backslash takes along stays on the line. -/
theorem pairsBehind_escaped {c : CodePoint} (stays : c.isLineEnd = false) (root front : Text)
    (left : Option Text)
    : pairsBehind root front (left.map (CodePoint.backslash :: c :: ·))
      = pairsBehind root (front ++ [CodePoint.backslash] ++ [c]) left := by
  have mark : CodePoint.backslash.isLineEnd = false := by decide
  rw [← pairsBehind_stays stays, ← pairsBehind_stays mark, Option.map_map]
  rfl

/-- A line on which a literal is open is not accepted, if the root has no quote in its name. -/
theorem linePairs_of_open {root front : Text} (quoteless : ∀ c ∈ root, isQuote c = false)
    (single : Text.OnOneLine front) {opened : LineLiteral}
    (inside : literalBehind none front = some opened)
    : linePairs root front = none := by
  cases pairs : linePairs root front with
  | none => rfl
  | some made =>
      have closed := literalBehind_of_statements quoteless single
        fun _ member => Text.isSome_of_mapM pairs member
      rw [closed] at inside
      cases inside

/-- A line that ends with a backslash is not accepted. -/
theorem linePairs_of_backslash (root front : Text)
    : linePairs root (front ++ [CodePoint.backslash]) = none := by
  obtain ⟨statement, member, rejected⟩ := rejected_of_backslash root front
  cases pairs : linePairs root (front ++ [CodePoint.backslash]) with
  | none => rfl
  | some made =>
      have accepted := Text.isSome_of_mapM pairs member
      rw [rejected] at accepted
      cases accepted

/-- A backslash that takes a line end along leaves nothing to assign. -/
theorem pairsBehind_brokenEscape {c : CodePoint} (ends : c.isLineEnd = true) (root front : Text)
    (left : Option Text)
    : pairsBehind root front (left.map (CodePoint.backslash :: c :: ·)) = none := by
  have mark : CodePoint.backslash.isLineEnd = false := by decide
  rw [← pairsBehind_rejected ends (linePairs_of_backslash root front) left,
    ← pairsBehind_stays mark, Option.map_map]
  rfl

-----------------------------------------------------------------------------------------
-- Scripts with line feeds alone
-----------------------------------------------------------------------------------------

/-- The beginning of a line with the mode behind it. A literal opens with a quote, and if the root
has no quote in its name, it is open for the cut at semicolons too.
-/
structure Aligned (root front : Text) (mode : ScriptMode) : Prop where
  single : Text.OnOneLine front
  quoted : ∀ quote, mode = .literal quote → isQuote quote = true
  opened : (∀ c ∈ root, isQuote c = false) → literalBehind none front = openedBy mode

namespace Aligned

variable {root front : Text} {mode : ScriptMode}

theorem begin {mode : ScriptMode} (outside : openedBy mode = none) : Aligned root [] mode where
  single := Text.onOneLine_nil
  quoted := by
    rintro quote rfl
    cases outside
  opened := fun _ => outside.symm

/-- A mode outside of literals can take the place of another one. -/
theorem outside {other : ScriptMode} (aligned : Aligned root front mode)
    (closed : openedBy mode = none) (closedOther : openedBy other = none)
    : Aligned root front other where
  single := aligned.single
  quoted := by
    rintro quote rfl
    cases closedOther
  opened := fun quoteless => by rw [aligned.opened quoteless, closed, closedOther]

theorem behindCode {c : CodePoint} (aligned : Aligned root front .code)
    (stays : c.isLineEnd = false)
    : Aligned root (front ++ [c]) (modeBehindCode c) where
  single := aligned.single.concat stays
  quoted := by
    intro quote same
    unfold modeBehindCode at same
    split at same
    · next opens =>
        cases same
        exact opens
    · cases same
  opened := fun quoteless => by
    have next := literalBehind_code (aligned.opened quoteless) c
    rwa [begunBehind, stays] at next

theorem escaped {c quote : CodePoint} (aligned : Aligned root front (.literal quote))
    (stays : c.isLineEnd = false)
    : Aligned root (front ++ [CodePoint.backslash] ++ [c]) (.literal quote) where
  single := (aligned.single.concat (by decide)).concat stays
  quoted := aligned.quoted
  opened := fun quoteless => by
    rw [literalBehind_append, literalBehind_append, aligned.opened quoteless]
    rfl

theorem behindLiteral {c quote : CodePoint} (aligned : Aligned root front (.literal quote))
    (stays : c.isLineEnd = false) (plain : c ≠ CodePoint.backslash)
    : Aligned root (front ++ [c]) (modeBehindLiteral quote c) where
  single := aligned.single.concat stays
  quoted := by
    intro other same
    unfold modeBehindLiteral at same
    split at same
    · cases same
    · cases same
      exact aligned.quoted quote rfl
  opened := fun quoteless => literalBehind_inside (aligned.opened quoteless) stays plain

/-- A line that ends while a literal is open is not accepted, or the scanners need not agree. -/
theorem ended {quote : CodePoint} (aligned : Aligned root front (.literal quote))
    : linePairs root front = none ∨ Aligned root [] (.literal quote) := by
  by_cases quoteless : ∀ c ∈ root, isQuote c = false
  · exact Or.inl (linePairs_of_open quoteless aligned.single (aligned.opened quoteless))
  · exact Or.inr ⟨Text.onOneLine_nil, aligned.quoted, fun none => absurd none quoteless⟩

end Aligned

variable {root : Text}

/-- The beginning of a line with the mode behind it, in front of a text that comes to the same with
line feeds alone.
-/
def Unifies (root : Text) (mode : ScriptMode) (t : Text) : Prop :=
  ∀ front : Text,
    Aligned root front mode
      → pairsBehind root front (stripped? mode t)
        = pairsBehind root front (stripped? mode t.unifyNewlines)

theorem linePairs_nil (root : Text) : linePairs root [] = some [] := rfl

/-- A code point that is kept, with line feeds alone behind it or not. -/
theorem Unifies.kept {mode : ScriptMode} {rest front : Text} (same : Unifies root mode rest)
    {c : CodePoint}
    (ends : c.isLineEnd = true → linePairs root front = none ∨ Aligned root [] mode)
    (stays : c.isLineEnd = false → Aligned root (front ++ [c]) mode)
    : pairsBehind root front ((stripped? mode rest).map (c :: ·))
      = pairsBehind root front ((stripped? mode rest.unifyNewlines).map (c :: ·)) := by
  cases line : c.isLineEnd with
  | true =>
      rw [pairsBehind_ends line, pairsBehind_ends line]
      rcases ends line with rejected | aligned
      · rw [rejected]
        rfl
      · rw [same _ aligned]
  | false => rw [pairsBehind_stays line, pairsBehind_stays line, same _ (stays line)]

/-- A carriage return with a line feed behind it ends a line once, where both are kept. -/
theorem Unifies.pair {mode : ScriptMode} {rest front : Text}
    (same : Unifies root mode (CodePoint.lineFeed :: rest))
    (ends : linePairs root front = none ∨ Aligned root [] mode)
    (feed
      : ∀ later,
          stripped? mode (CodePoint.lineFeed :: later)
            = (stripped? .code later).map (CodePoint.lineFeed :: ·))
    : pairsBehind root front
          ((stripped? mode (CodePoint.lineFeed :: rest)).map (CodePoint.carriageReturn :: ·))
      = pairsBehind root front (stripped? mode (CodePoint.lineFeed :: rest.unifyNewlines)) := by
  have isEnd : CodePoint.lineFeed.isLineEnd = true := by decide
  rw [pairsBehind_ends (by decide), feed rest.unifyNewlines, pairsBehind_ends isEnd]
  rcases ends with rejected | aligned
  · rw [rejected]
    rfl
  · have next := same _ aligned
    rw [Text.unifyNewlines_cons (by decide), feed rest.unifyNewlines, pairsBehind_ends isEnd,
      linePairs_nil] at next
    rw [next]
    simp

/-- In the code every carriage return ends a line. -/
theorem Unifies.code {c : CodePoint} {rest : Text} (same : Unifies root (modeBehindCode c) rest)
    (plain : ¬ OpensComment c rest)
    : Unifies root .code (c :: rest) := by
  intro front aligned
  by_cases ret : c = CodePoint.carriageReturn
  · subst ret
    have feed (later : Text)
        : stripped? .code (CodePoint.lineFeed :: later)
          = (stripped? .code later).map (CodePoint.lineFeed :: ·) :=
      stripped?_code fun opens => absurd opens.1 (by decide)
    rw [stripped?_code plain]
    rcases Text.lineFeed_or_lone rest with ⟨later, rfl⟩ | lone
    · exact same.pair (Or.inr (.begin rfl)) feed
    · rw [Text.unifyNewlines_return lone, feed, pairsBehind_ends (by decide),
        pairsBehind_ends (by decide), same _ (.begin rfl)]
      rfl
  · rw [Text.unifyNewlines_cons ret, stripped?_code plain,
      stripped?_code (mt opensComment_unifyNewlines.mp plain)]
    refine same.kept (fun ends => Or.inr (.begin ?_)) aligned.behindCode
    rw [modeBehindCode, isQuote_of_isBlank (CodePoint.isBlank_of_isLineEnd ends)]
    rfl

/-- Behind a backslash a carriage return is as little accepted as a line feed. -/
theorem Unifies.escape {quote c : CodePoint} {rest : Text}
    (same : Unifies root (.literal quote) rest)
    : Unifies root (.literal quote) (CodePoint.backslash :: c :: rest) := by
  intro front aligned
  rw [Text.unifyNewlines_cons (by decide)]
  cases ends : c.isLineEnd with
  | true =>
      obtain ⟨d, later, endsToo, form⟩ := Text.unifyNewlines_of_ends ends rest
      rw [form, stripped?_escape, stripped?_escape, pairsBehind_brokenEscape ends,
        pairsBehind_brokenEscape endsToo]
  | false =>
      have noReturn : c ≠ CodePoint.carriageReturn := by
        rintro rfl
        cases ends
      rw [Text.unifyNewlines_cons noReturn, stripped?_escape, stripped?_escape,
        pairsBehind_escaped ends, pairsBehind_escaped ends, same _ (aligned.escaped ends)]

theorem modeBehindLiteral_return {quote : CodePoint} (isQuote : isQuote quote = true)
    : modeBehindLiteral quote CodePoint.carriageReturn = .literal quote := by
  have other : CodePoint.carriageReturn ≠ quote := by
    rintro rfl
    cases isQuote
  have noFeed : CodePoint.carriageReturn ≠ CodePoint.lineFeed := by decide
  simp [modeBehindLiteral, other, noFeed]

/-- A carriage return that stands by itself in a literal is accepted as little as a line feed, if
the root has no quote in its name.
-/
theorem Unifies.literalReturn {quote : CodePoint} {rest : Text} (isQuote : isQuote quote = true)
    (same : Unifies root (.literal quote) rest)
    (returns : ReturnsEndLines root (.literal quote) (CodePoint.carriageReturn :: rest))
    : Unifies root (.literal quote) (CodePoint.carriageReturn :: rest) := by
  intro front aligned
  have plain : ¬ Escapes CodePoint.carriageReturn rest := fun escapes =>
    absurd escapes.1 (by decide)
  have feed (later : Text)
      : stripped? (.literal quote) (CodePoint.lineFeed :: later)
        = (stripped? .code later).map (CodePoint.lineFeed :: ·) := by
    rw [stripped?_literal fun escapes => absurd escapes.1 (by decide)]
    simp [modeBehindLiteral]
  rw [stripped?_literal plain, modeBehindLiteral_return isQuote]
  rcases Text.lineFeed_or_lone rest with ⟨later, rfl⟩ | lone
  · exact same.pair aligned.ended feed
  · have unquoted := returns (.literal quote, CodePoint.carriageReturn :: rest)
      (steps_literal plain quote ▸ List.mem_cons_self) ⟨rfl, lone⟩
    have quoteless : ∀ c ∈ root, Script.isQuote c = false := by
      simpa [returnEndsLine] using unquoted
    have rejected := linePairs_of_open quoteless aligned.single (aligned.opened quoteless)
    rw [Text.unifyNewlines_return lone, feed, pairsBehind_rejected (by decide) rejected,
      pairsBehind_rejected (by decide) rejected]

theorem Unifies.literal {quote c : CodePoint} {rest : Text}
    (same : Unifies root (modeBehindLiteral quote c) rest) (plain : ¬ Escapes c rest)
    (noReturn : c ≠ CodePoint.carriageReturn)
    : Unifies root (.literal quote) (c :: rest) := by
  intro front aligned
  by_cases mark : c = CodePoint.backslash
  · -- a backslash that escapes nothing is the last code point
    have last : rest = [] := by
      by_contra some
      exact plain ⟨mark, some⟩
    subst last
    rw [Text.unifyNewlines_cons noReturn]
    rfl
  · rw [Text.unifyNewlines_cons noReturn, stripped?_literal plain,
      stripped?_literal (mt escapes_unifyNewlines.mp plain)]
    refine same.kept (fun ends => ?_) fun stays => aligned.behindLiteral stays mark
    unfold modeBehindLiteral
    split
    · exact Or.inr (.begin rfl)
    · exact aligned.ended

/-- In a line comment no carriage return stands by itself. -/
theorem Unifies.line {c : CodePoint} {rest : Text} (same : Unifies root .lineComment rest)
    (stays : c ≠ CodePoint.lineFeed) (returns : ReturnsEndLines root .lineComment (c :: rest))
    : Unifies root .lineComment (c :: rest) := by
  intro front aligned
  by_cases ret : c = CodePoint.carriageReturn
  · subst ret
    rcases Text.lineFeed_or_lone rest with ⟨later, rfl⟩ | lone
    · exact (congrArg _ (stripped?_line stays _)).trans (same front aligned)
    · cases returns (.lineComment, CodePoint.carriageReturn :: rest)
        (steps_line stays ▸ List.mem_cons_self) ⟨rfl, lone⟩
  · rw [Text.unifyNewlines_cons ret, stripped?_line stays, stripped?_line stays,
      same front aligned]

/-- In a block comment no carriage return stands by itself, and line feeds are kept. -/
theorem Unifies.block {opening : OpenComment} {c : CodePoint} {rest : Text}
    (same : Unifies root (.blockComment opening) rest) (goesOn : ¬ EndsComment c rest)
    (returns : ReturnsEndLines root (.blockComment opening) (c :: rest))
    : Unifies root (.blockComment opening) (c :: rest) := by
  intro front aligned
  by_cases ret : c = CodePoint.carriageReturn
  · subst ret
    rcases Text.lineFeed_or_lone rest with ⟨later, rfl⟩ | lone
    · have dropped : stripped? (.blockComment opening)
            (CodePoint.carriageReturn :: CodePoint.lineFeed :: later)
          = stripped? (.blockComment opening) (CodePoint.lineFeed :: later) :=
        (stripped?_block goesOn opening).trans Option.map_id'
      rw [dropped, same front aligned]
      rfl
    · cases returns (.blockComment opening, CodePoint.carriageReturn :: rest)
        (steps_block goesOn opening ▸ List.mem_cons_self) ⟨rfl, lone⟩
  · rw [Text.unifyNewlines_cons ret, stripped?_block goesOn,
      stripped?_block (mt endsComment_unifyNewlines.mp goesOn)]
    by_cases feed : c = CodePoint.lineFeed
    · subst feed
      exact same.kept (fun _ => Or.inr (.begin rfl)) fun stays => absurd stays (by decide)
    · have nothing : [c].filter (· = CodePoint.lineFeed) = [] := by simp [feed]
      rw [nothing]
      simpa using same front aligned

/-- A script comes to the same assignments when its carriage returns have become line feeds,
wherever it begins, if every carriage return that stands by itself ends a line. Step by step.
-/
theorem unifies (mode : ScriptMode) (t : Text) (returns : ReturnsEndLines root mode t)
    : Unifies root mode t := by
  induction mode, t using strip_induction with
  | ended mode => exact fun _ _ => rfl
  | lineOpens rest ih =>
      intro front aligned
      exact ih (returns.next rfl) front (aligned.outside rfl rfl)
  | blockOpens rest ih =>
      intro front aligned
      have same := ih anyOpening (returns.next rfl) front (aligned.outside rfl rfl)
      rw [← stripped?_blockOpens, ← stripped?_blockOpens] at same
      exact same
  | code c rest plain ih => exact (ih (returns.next (steps_code plain))).code plain
  | escape quote c rest ih => exact (ih (returns.next rfl)).escape
  | literal quote c rest plain ih =>
      have same := ih (returns.next (steps_literal plain quote))
      by_cases ret : c = CodePoint.carriageReturn
      · subst ret
        intro front aligned
        have isQuote := aligned.quoted quote rfl
        rw [modeBehindLiteral_return isQuote] at same
        exact same.literalReturn isQuote returns front aligned
      · exact same.literal plain ret
  | lineEnds rest ih =>
      intro front aligned
      rw [Text.unifyNewlines_cons (by decide), stripped?_lineEnds, stripped?_lineEnds]
      exact (ih (returns.next rfl)).kept (fun _ => Or.inr (.begin rfl)) fun stays =>
        absurd stays (by decide)
  | line c rest stays ih => exact (ih (returns.next (steps_line stays))).line stays returns
  | blockEnds opening rest ih =>
      intro front aligned
      exact ih (returns.next rfl) front (aligned.outside rfl rfl)
  | block opening c rest goesOn ih =>
      exact (ih (returns.next (steps_block goesOn opening))).block goesOn returns

/-- A script comes to the same assignments when its carriage returns have become line feeds, if
every carriage return that stands by itself ends a line.
-/
theorem read_unifyNewlines (source other : Option Text) {t : Text}
    (returns : ReturnsEndLines root .code t)
    : (read source root t).pairs? = (read other root t.unifyNewlines).pairs? := by
  rw [read_pairsBehind, read_pairsBehind]
  exact unifies .code t returns [] (.begin rfl)

end Script
end Recommender
