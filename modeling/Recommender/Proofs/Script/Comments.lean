import Mathlib.Data.List.Chain
import Recommender.Proofs.Script.Stripping

/-! Comments are gone for good. What is left of a text without its comments has no comments, and has
the literals and the lines of the text.
-/

namespace Recommender.Script

-----------------------------------------------------------------------------------------
-- Roles
-----------------------------------------------------------------------------------------

/-- What a code point belongs to: the code, a literal or a comment, and whether it is the first one
of the literal or of the comment.
-/
inductive Role where
  | code
  | literal (first : Bool)
  | comment (first : Bool)
deriving DecidableEq

def Role.isLiteral : Role → Bool
  | .literal _ => true
  | _ => false

def Role.isComment : Role → Bool
  | .comment _ => true
  | _ => false

/-- The code points of a text that begins in a mode, each with its role. A literal begins at a quote
of the code. It ends with the next equal quote or line feed that no backslash escapes, or with the
text. A line comment ends in front of a line feed, a block comment with a star and a slash.
-/
def roles : ScriptMode → Text → List (CodePoint × Role)
  | _, [] => []
  | .code, CodePoint.slash :: CodePoint.slash :: rest =>
    (CodePoint.slash, .comment true) :: (CodePoint.slash, .comment false)
      :: roles .lineComment rest
  | .code, CodePoint.slash :: CodePoint.star :: rest =>
    (CodePoint.slash, .comment true) :: (CodePoint.star, .comment false)
      :: roles (.blockComment anyOpening) rest
  | .code, c :: rest =>
    (c, if isQuote c then .literal true else .code) :: roles (modeBehindCode c) rest
  | .literal quote, CodePoint.backslash :: c :: rest =>
    (CodePoint.backslash, .literal false) :: (c, .literal false) :: roles (.literal quote) rest
  | .literal quote, c :: rest => (c, .literal false) :: roles (modeBehindLiteral quote c) rest
  | .lineComment, c :: rest =>
    if c = CodePoint.lineFeed then (c, .code) :: roles .code rest
    else (c, .comment false) :: roles .lineComment rest
  | .blockComment _, CodePoint.star :: CodePoint.slash :: rest =>
    (CodePoint.star, .comment false) :: (CodePoint.slash, .comment false) :: roles .code rest
  | .blockComment opening, c :: rest =>
    (c, .comment false) :: roles (.blockComment opening) rest

theorem roles_nil (mode : ScriptMode) : roles mode [] = [] := by
  cases mode <;> rfl

theorem roles_lineOpens (rest : Text)
    : roles .code (CodePoint.slash :: CodePoint.slash :: rest)
      = (CodePoint.slash, .comment true) :: (CodePoint.slash, .comment false)
          :: roles .lineComment rest :=
  rfl

theorem roles_blockOpens (rest : Text)
    : roles .code (CodePoint.slash :: CodePoint.star :: rest)
      = (CodePoint.slash, .comment true) :: (CodePoint.star, .comment false)
          :: roles (.blockComment anyOpening) rest :=
  rfl

theorem roles_code {c : CodePoint} {rest : Text} (plain : ¬ OpensComment c rest)
    : roles .code (c :: rest)
      = (c, if isQuote c then .literal true else .code) :: roles (modeBehindCode c) rest := by
  rw [roles]
  · rintro _ rfl rfl
    exact plain ⟨rfl, Or.inl rfl⟩
  · rintro _ rfl rfl
    exact plain ⟨rfl, Or.inr rfl⟩

theorem roles_escape (quote c : CodePoint) (rest : Text)
    : roles (.literal quote) (CodePoint.backslash :: c :: rest)
      = (CodePoint.backslash, .literal false) :: (c, .literal false)
          :: roles (.literal quote) rest :=
  rfl

theorem roles_literal {c : CodePoint} {rest : Text} (plain : ¬ Escapes c rest)
    (quote : CodePoint)
    : roles (.literal quote) (c :: rest)
      = (c, .literal false) :: roles (modeBehindLiteral quote c) rest := by
  rw [roles]
  rintro _ _ rfl rfl
  exact plain ⟨rfl, by simp⟩

theorem roles_lineEnds (rest : Text)
    : roles .lineComment (CodePoint.lineFeed :: rest)
      = (CodePoint.lineFeed, .code) :: roles .code rest :=
  rfl

theorem roles_line {c : CodePoint} (stays : c ≠ CodePoint.lineFeed) (rest : Text)
    : roles .lineComment (c :: rest) = (c, .comment false) :: roles .lineComment rest := by
  rw [roles, if_neg stays]

theorem roles_blockEnds (opening : OpenComment) (rest : Text)
    : roles (.blockComment opening) (CodePoint.star :: CodePoint.slash :: rest)
      = (CodePoint.star, .comment false) :: (CodePoint.slash, .comment false)
          :: roles .code rest :=
  rfl

theorem roles_block {c : CodePoint} {rest : Text} (goesOn : ¬ EndsComment c rest)
    (opening : OpenComment)
    : roles (.blockComment opening) (c :: rest)
      = (c, .comment false) :: roles (.blockComment opening) rest := by
  rw [roles]
  rintro _ rfl rfl
  exact goesOn ⟨rfl, rfl⟩

/-- Roles do not depend on where a comment was opened before, by list induction. -/
theorem roles_opening (opening other : OpenComment) (t : Text)
    : roles (.blockComment opening) t = roles (.blockComment other) t := by
  induction t with
  | nil => rfl
  | cons c rest ih =>
      by_cases ends : EndsComment c rest
      · obtain ⟨rfl, head⟩ := ends
        cases rest with
        | nil => cases head
        | cons second others =>
            obtain rfl := Option.some.inj head
            rfl
      · rw [roles_block ends, roles_block ends, ih]

/-- Every code point has a role, step by step. -/
theorem map_fst_roles (mode : ScriptMode) (t : Text) : (roles mode t).map Prod.fst = t := by
  induction mode, t using strip_induction with
  | ended mode => rw [roles_nil, List.map_nil]
  | lineOpens rest ih => rw [roles_lineOpens, List.map_cons, List.map_cons, ih]
  | blockOpens rest ih => rw [roles_blockOpens, List.map_cons, List.map_cons, ih]
  | code c rest plain ih => rw [roles_code plain, List.map_cons, ih]
  | escape quote c rest ih => rw [roles_escape, List.map_cons, List.map_cons, ih]
  | literal quote c rest plain ih => rw [roles_literal plain, List.map_cons, ih]
  | lineEnds rest ih => rw [roles_lineEnds, List.map_cons, ih]
  | line c rest stays ih => rw [roles_line stays, List.map_cons, ih]
  | blockEnds opening rest ih => rw [roles_blockEnds, List.map_cons, List.map_cons, ih]
  | block opening c rest goesOn ih => rw [roles_block goesOn, List.map_cons, ih]

-----------------------------------------------------------------------------------------
-- What is left
-----------------------------------------------------------------------------------------

/-- What is left of a code point without comments. A line feed in a comment is left to the code. -/
def left? (entry : CodePoint × Role) : Option (CodePoint × Role) :=
  if entry.2.isComment = false then some entry
  else if entry.1 = CodePoint.lineFeed then some (CodePoint.lineFeed, .code)
  else none

/-- The mode that what is left of a text begins in. -/
def modeLeft : ScriptMode → ScriptMode
  | .literal quote => .literal quote
  | _ => .code

@[simp] theorem left?_code (c : CodePoint) : left? (c, .code) = some (c, .code) := rfl

@[simp] theorem left?_literal (c : CodePoint) (first : Bool)
    : left? (c, .literal first) = some (c, .literal first) := rfl

theorem left?_comment (c : CodePoint) (first : Bool)
    : left? (c, .comment first)
      = if c = CodePoint.lineFeed then some (CodePoint.lineFeed, .code) else none := rfl

/-- A line feed is always left. -/
theorem left?_lineFeed (role : Role)
    : ∃ role', left? (CodePoint.lineFeed, role) = some (CodePoint.lineFeed, role') := by
  cases role <;> simp [left?_comment]

@[simp] theorem modeLeft_modeBehindCode (c : CodePoint)
    : modeLeft (modeBehindCode c) = modeBehindCode c := by
  unfold modeBehindCode
  split <;> rfl

@[simp] theorem modeLeft_modeBehindLiteral (quote c : CodePoint)
    : modeLeft (modeBehindLiteral quote c) = modeBehindLiteral quote c := by
  unfold modeBehindLiteral
  split <;> rfl

/-- No two code points are brought together that open a comment: behind a slash of the code stands
what stood there before.
-/
theorem opensComment_of_stripped? {c : CodePoint} {rest u : Text}
    (left : stripped? (modeBehindCode c) rest = some u) (opens : OpensComment c u)
    : OpensComment c rest := by
  obtain ⟨rfl, head⟩ := opens
  have code : modeBehindCode CodePoint.slash = .code := by decide
  rw [code] at left
  cases rest with
  | nil =>
      cases left
      simp at head
  | cons d rest =>
      by_cases opensNext : OpensComment d rest
      · exact ⟨rfl, Or.inl (congrArg some opensNext.1)⟩
      · rw [stripped?_code opensNext, Option.map_eq_some_iff] at left
        obtain ⟨v, -, rfl⟩ := left
        exact ⟨rfl, head⟩

/-- Removing comments leaves what is left in its role, step by step. -/
theorem roles_of_stripped? (mode : ScriptMode) (t : Text)
    : ∀ {u : Text},
        stripped? mode t = some u → roles (modeLeft mode) u = (roles mode t).filterMap left? := by
  induction mode, t using strip_induction with
  | ended mode =>
      intro u left
      cases mode <;> cases left <;> rfl
  | lineOpens rest ih =>
      intro u left
      exact ih left
  | blockOpens rest ih =>
      intro u left
      rw [stripped?_blockOpens anyOpening] at left
      exact ih anyOpening left
  | code c rest plain ih =>
      intro u left
      rw [stripped?_code plain, Option.map_eq_some_iff] at left
      obtain ⟨v, left, rfl⟩ := left
      have plainLeft : ¬ OpensComment c v :=
        fun opens => plain (opensComment_of_stripped? left opens)
      have next := ih left
      rw [modeLeft_modeBehindCode] at next
      have code : modeLeft .code = .code := rfl
      rw [code, roles_code plainLeft, roles_code plain, next]
      cases isQuote c <;> rfl
  | escape quote c rest ih =>
      intro u left
      rw [stripped?_escape, Option.map_eq_some_iff] at left
      obtain ⟨v, left, rfl⟩ := left
      exact congrArg ([(CodePoint.backslash, Role.literal false), (c, .literal false)] ++ ·)
        (ih left)
  | literal quote c rest plain ih =>
      intro u left
      rw [stripped?_literal plain, Option.map_eq_some_iff] at left
      obtain ⟨v, left, rfl⟩ := left
      have plainLeft : ¬ Escapes c v := by
        rintro ⟨rfl, some⟩
        refine plain ⟨rfl, ?_⟩
        rintro rfl
        unfold modeBehindLiteral at left
        split at left <;> cases left <;> exact some rfl
      have next := ih left
      rw [modeLeft_modeBehindLiteral] at next
      rw [modeLeft, roles_literal plainLeft, roles_literal plain, next]
      rfl
  | lineEnds rest ih =>
      intro u left
      rw [stripped?_lineEnds, Option.map_eq_some_iff] at left
      obtain ⟨v, left, rfl⟩ := left
      exact congrArg _ (ih left)
  | line c rest stays ih =>
      intro u left
      rw [stripped?_line stays] at left
      rw [roles_line stays, List.filterMap_cons, left?_comment, if_neg stays]
      exact ih left
  | blockEnds opening rest ih =>
      intro u left
      exact ih left
  | block opening c rest goesOn ih =>
      intro u left
      rw [stripped?_block goesOn, Option.map_eq_some_iff] at left
      obtain ⟨v, left, rfl⟩ := left
      rw [roles_block goesOn, List.filterMap_cons, left?_comment]
      by_cases ends : c = CodePoint.lineFeed
      · subst ends
        exact congrArg _ (ih left)
      · simpa [ends] using ih left

/-- The code points of what is left and their roles. -/
theorem roles_strip {t u : Text} (left : strip t = .ok u)
    : roles .code u = (roles .code t).filterMap left? :=
  roles_of_stripped? .code t (toOption_eq_some.mpr left)

theorem isComment_of_left? {entry next : CodePoint × Role} (left : left? entry = some next)
    : next.2.isComment = false := by
  unfold left? at left
  split at left
  · next outside => exact Option.some.inj left ▸ outside
  · split at left
    · exact Option.some.inj left ▸ rfl
    · cases left

/-- A text without comments is left as it is, step by step. -/
theorem stripped?_of_uncommented (mode : ScriptMode) (t : Text)
    : modeLeft mode = mode
        → (∀ entry ∈ roles mode t, entry.2.isComment = false)
        → stripped? mode t = some t := by
  induction mode, t using strip_induction with
  | ended mode =>
      intro outside _
      cases mode <;> cases outside <;> rfl
  | lineOpens rest ih =>
      intro _ uncommented
      cases uncommented _ List.mem_cons_self
  | blockOpens rest ih =>
      intro _ uncommented
      cases uncommented _ List.mem_cons_self
  | code c rest plain ih =>
      intro _ uncommented
      rw [roles_code plain, List.forall_mem_cons] at uncommented
      rw [stripped?_code plain, ih (modeLeft_modeBehindCode c) uncommented.2]
      rfl
  | escape quote c rest ih =>
      intro _ uncommented
      rw [roles_escape, List.forall_mem_cons, List.forall_mem_cons] at uncommented
      rw [stripped?_escape, ih rfl uncommented.2.2]
      rfl
  | literal quote c rest plain ih =>
      intro _ uncommented
      rw [roles_literal plain, List.forall_mem_cons] at uncommented
      rw [stripped?_literal plain, ih (modeLeft_modeBehindLiteral quote c) uncommented.2]
      rfl
  | lineEnds rest ih => exact nofun
  | line c rest stays ih => exact nofun
  | blockEnds opening rest ih => exact nofun
  | block opening c rest goesOn ih => exact nofun

-----------------------------------------------------------------------------------------
-- Marks of comments
-----------------------------------------------------------------------------------------

/-- A mode inside a literal is inside one that a quote opened. -/
def Quoted : ScriptMode → Prop
  | .literal quote => isQuote quote = true
  | _ => True

theorem quoted_modeBehindCode (c : CodePoint) : Quoted (modeBehindCode c) := by
  unfold modeBehindCode
  split
  · assumption
  · trivial

theorem Quoted.modeBehindLiteral {quote : CodePoint} (quoted : Quoted (.literal quote))
    (c : CodePoint)
    : Quoted (modeBehindLiteral quote c) := by
  unfold Script.modeBehindLiteral
  split
  · trivial
  · exact quoted

/-- What follows a slash: two code points that would open a comment belong to one or to a literal.
-/
def MarksNothing (entry next : CodePoint × Role) : Prop :=
  entry.1 = CodePoint.slash →
    next.1 = CodePoint.slash ∨ next.1 = CodePoint.star →
      entry.2.isComment = true ∨ (entry.2.isLiteral = true ∧ next.2.isLiteral = true)

theorem head?_roles (mode : ScriptMode) (t : Text)
    : (roles mode t).head?.map Prod.fst = t.head? := by
  rw [← List.head?_map, map_fst_roles]

theorem isLiteral_of_head?_roles {quote : CodePoint} {t : Text} {entry : CodePoint × Role}
    (head : entry ∈ (roles (.literal quote) t).head?)
    : entry.2.isLiteral = true := by
  cases t with
  | nil => cases head
  | cons c rest =>
      by_cases escapes : Escapes c rest
      · obtain ⟨rfl, some⟩ := escapes
        obtain ⟨d, others, rfl⟩ := List.exists_cons_of_ne_nil some
        cases head
        rfl
      · rw [roles_literal escapes] at head
        cases head
        rfl

/-- Marks of comments stand in comments and in literals, step by step. -/
theorem isChain_roles (mode : ScriptMode) (t : Text)
    : Quoted mode → (roles mode t).IsChain MarksNothing := by
  induction mode, t using strip_induction with
  | ended mode =>
      intro _
      rw [roles_nil]
      exact .nil
  | lineOpens rest ih =>
      intro _
      exact .cons_cons (fun _ _ => .inl rfl) ((ih trivial).cons fun _ _ _ _ => .inl rfl)
  | blockOpens rest ih =>
      intro _
      exact .cons_cons (fun _ _ => .inl rfl) ((ih anyOpening trivial).cons fun _ _ _ _ => .inl rfl)
  | code c rest plain ih =>
      intro _
      rw [roles_code plain]
      refine (ih (quoted_modeBehindCode c)).cons fun next head isSlash mark => ?_
      have second := head?_roles (modeBehindCode c) rest
      rw [Option.mem_def.mp head, Option.map_some] at second
      refine absurd ⟨isSlash, ?_⟩ plain
      rw [← second]
      exact mark.imp (congrArg some) (congrArg some)
  | escape quote c rest ih =>
      intro quoted
      refine .cons_cons (fun isSlash => ?_) ((ih quoted).cons fun next head _ _ => ?_)
      · exact absurd isSlash (by decide : CodePoint.backslash ≠ CodePoint.slash)
      · exact .inr ⟨rfl, isLiteral_of_head?_roles head⟩
  | literal quote c rest plain ih =>
      intro quoted
      rw [roles_literal plain]
      refine (ih (quoted.modeBehindLiteral c)).cons fun next head isSlash _ => ?_
      -- a slash closes no literal
      have inside : modeBehindLiteral quote c = .literal quote := by
        have other := (backslash_of_isQuote quoted).2.1
        have isSlash : c = CodePoint.slash := isSlash
        subst isSlash
        rw [modeBehindLiteral, if_neg]
        simp only [Bool.or_eq_true, decide_eq_true_eq, not_or]
        exact ⟨Ne.symm other, by decide⟩
      rw [inside] at head
      exact .inr ⟨rfl, isLiteral_of_head?_roles head⟩
  | lineEnds rest ih =>
      intro _
      refine (ih trivial).cons fun next _ isSlash => ?_
      exact absurd isSlash (by decide : CodePoint.lineFeed ≠ CodePoint.slash)
  | line c rest stays ih =>
      intro _
      rw [roles_line stays]
      exact (ih trivial).cons fun _ _ _ _ => .inl rfl
  | blockEnds opening rest ih =>
      intro _
      exact .cons_cons (fun _ _ => .inl rfl) ((ih trivial).cons fun _ _ _ _ => .inl rfl)
  | block opening c rest goesOn ih =>
      intro _
      rw [roles_block goesOn]
      exact (ih trivial).cons fun _ _ _ _ => .inl rfl

-----------------------------------------------------------------------------------------
-- Literals and lines
-----------------------------------------------------------------------------------------

/-- The literals of a text, in order. -/
def literals (t : Text) : List Text :=
  (((roles .code t).filter (·.2.isLiteral)).splitBy fun _ next => next.2 ≠ .literal true).map
    (·.map Prod.fst)

/-- The lines of a text between line feeds, each code point with its role. -/
def roleLines (t : Text) : List (List (CodePoint × Role)) :=
  (roles .code t).splitOnP (·.1 == CodePoint.lineFeed)

/-- A line without the code points of comments. -/
def uncommented (line : List (CodePoint × Role)) : Text :=
  (line.filter fun entry => !entry.2.isComment).map Prod.fst

/-- What is left has the literals of the text, by list induction. -/
theorem filter_isLiteral_left (entries : List (CodePoint × Role))
    : (entries.filterMap left?).filter (·.2.isLiteral) = entries.filter (·.2.isLiteral) := by
  induction entries with
  | nil => rfl
  | cons entry rest ih =>
      obtain ⟨c, role⟩ := entry
      cases role with
      | code => simpa [Role.isLiteral] using ih
      | literal first => simpa [Role.isLiteral] using ih
      | comment first =>
          rw [List.filterMap_cons, left?_comment]
          by_cases ends : c = CodePoint.lineFeed <;> simpa [ends, Role.isLiteral] using ih

/-- What is left has the line feeds of the text, by list induction. -/
theorem count_left (entries : List (CodePoint × Role))
    : ((entries.filterMap left?).map Prod.fst).count CodePoint.lineFeed
      = (entries.map Prod.fst).count CodePoint.lineFeed := by
  induction entries with
  | nil => rfl
  | cons entry rest ih =>
      obtain ⟨c, role⟩ := entry
      cases role with
      | code => simp [List.count_cons, ih]
      | literal first => simp [List.count_cons, ih]
      | comment first =>
          rw [List.filterMap_cons, left?_comment]
          by_cases ends : c = CodePoint.lineFeed <;> simp [ends, ih]

/-- A code point that is kept is added to its line. -/
theorem map_uncommented_cons {entry : CodePoint × Role} (kept : entry.2.isComment = false)
    (lines : List (List (CodePoint × Role)))
    : (lines.modifyHead (entry :: ·)).map uncommented
      = (lines.map uncommented).modifyHead (entry.1 :: ·) := by
  cases lines <;> simp [uncommented, kept]

/-- A code point of a comment is left out of its line. -/
theorem map_uncommented_drop {entry : CodePoint × Role} (dropped : entry.2.isComment = true)
    (lines : List (List (CodePoint × Role)))
    : (lines.modifyHead (entry :: ·)).map uncommented = lines.map uncommented := by
  cases lines <;> simp [uncommented, dropped]

/-- What is left has the lines of the text without what belongs to comments, by list induction. -/
theorem splitOn_left (entries : List (CodePoint × Role))
    : List.splitOn CodePoint.lineFeed ((entries.filterMap left?).map Prod.fst)
      = (entries.splitOnP (·.1 == CodePoint.lineFeed)).map uncommented := by
  simp only [List.splitOn_eq_splitOnP]
  induction entries with
  | nil => rfl
  | cons entry rest ih =>
      obtain ⟨c, role⟩ := entry
      rw [List.splitOnP_cons_eq_if_modifyHead]
      by_cases ends : c = CodePoint.lineFeed
      · obtain ⟨role', left⟩ := left?_lineFeed role
        subst ends
        rw [List.filterMap_cons_some left, List.map_cons, List.splitOnP_cons_eq_if_modifyHead, ih]
        simp [uncommented]
      · cases comment : role.isComment with
        | true =>
            have left : left? (c, role) = none := by simp [left?, comment, ends]
            rw [List.filterMap_cons_none left, ih]
            have dropped := map_uncommented_drop (show (c, role).2.isComment = true from comment)
            simp [ends, dropped]
        | false =>
            have left : left? (c, role) = some (c, role) := if_pos comment
            rw [List.filterMap_cons_some left, List.map_cons, List.splitOnP_cons_eq_if_modifyHead,
              ih]
            have kept := map_uncommented_cons (show (c, role).2.isComment = false from comment)
            simp [ends, kept]

/-- Removing comments is final and loses nothing else: what is left stays as it is when comments are
removed again, has as many line feeds, has marks of comments in literals alone, and has the literals
and the lines of the text, the latter without what belongs to comments.
-/
theorem strip_final {t u : Text} (left : strip t = .ok u)
    : strip u = .ok u
      ∧ u.count CodePoint.lineFeed = t.count CodePoint.lineFeed
      ∧ (∀ before role d role' after,
          roles .code u = before ++ (CodePoint.slash, role) :: (d, role') :: after
            → d = CodePoint.slash ∨ d = CodePoint.star
            → role.isLiteral = true ∧ role'.isLiteral = true)
      ∧ literals u = literals t
      ∧ List.splitOn CodePoint.lineFeed u = (roleLines t).map uncommented := by
  have same := roles_strip left
  have text : u = ((roles .code t).filterMap left?).map Prod.fst := by
    rw [← same, map_fst_roles]
  have noComment : ∀ entry ∈ roles .code u, entry.2.isComment = false := by
    intro entry member
    rw [same] at member
    obtain ⟨_, _, left⟩ := List.mem_filterMap.mp member
    exact isComment_of_left? left
  refine ⟨?_, ?_, ?_, ?_, ?_⟩
  · exact toOption_eq_some.mp (stripped?_of_uncommented .code u rfl noComment)
  · rw [text, count_left, map_fst_roles]
  · intro before role d role' after form mark
    have chain := List.isChain_iff_forall_rel_of_append_cons_cons.mp (isChain_roles .code u trivial)
    refine (chain form rfl mark).resolve_left fun comment => ?_
    rw [noComment (CodePoint.slash, role) (by simp [form])] at comment
    cases comment
  · rw [literals, literals, same, filter_isLiteral_left]
  · rw [text, splitOn_left, roleLines]

/-- Comments stand behind literals and go over lines. Literals hold marks of comments, an escaped
quote and an escaped line feed, and the last one is ended by a line feed.
-/
theorem strip_final_literals
    : let t : Text :=
        "a = '//' // '\nb = \"/*\\\"\" /* '\n // */; c = '\\\n/* /**/'\nd = '// e\n// '"
      let u : Text := "a = '//' \nb = \"/*\\\"\" \n; c = '\\\n/* /**/'\nd = '// e\n"
      strip t = .ok u
      ∧ strip u = .ok u
      ∧ literals u = ["'//'", "\"/*\\\"\"", "'\\\n/* /**/'", "'// e\n"] := by
  intro t u
  have left : strip t = .ok u := by decide
  obtain ⟨again, -, -, same, -⟩ := strip_final left
  exact ⟨left, again, same.trans (by decide)⟩

end Recommender.Script
