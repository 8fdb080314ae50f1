import Mathlib.Data.List.Infix
import Mathlib.Data.List.SplitBy
import Recommender.Proofs.Script.Comments
import Recommender.Proofs.Script.Concatenation

/-! Open quotes. Removing comments and cutting lines at semicolons both keep track of the quote that
is open at each place of a text. Where every literal is closed on its line, they have the same
quotes open, and those are the quotes of the literals.
-/

namespace Recommender

/-- The quote of the literal that a mode is inside of. -/
def ScriptMode.quote? : ScriptMode → Option CodePoint
  | .literal quote => some quote
  | _ => none

namespace Script

-----------------------------------------------------------------------------------------
-- Open quotes
-----------------------------------------------------------------------------------------

/-- The mode at each place of a text when comments are removed, from in front of the first code
point to behind the last one. A code point that the one before it takes along has the mode that the
two are read in, or that they lead into.
-/
def modes : ScriptMode → Text → List ScriptMode
  | mode, [] => [mode]
  | .code, CodePoint.slash :: CodePoint.slash :: rest =>
    .code :: .lineComment :: modes .lineComment rest
  | .code, CodePoint.slash :: CodePoint.star :: rest =>
    .code :: .blockComment anyOpening :: modes (.blockComment anyOpening) rest
  | .code, c :: rest => .code :: modes (modeBehindCode c) rest
  | .literal quote, CodePoint.backslash :: _ :: rest =>
    .literal quote :: .literal quote :: modes (.literal quote) rest
  | .literal quote, c :: rest => .literal quote :: modes (modeBehindLiteral quote c) rest
  | .lineComment, c :: rest =>
    .lineComment :: modes (if c = CodePoint.lineFeed then .code else .lineComment) rest
  | .blockComment opening, CodePoint.star :: CodePoint.slash :: rest =>
    .blockComment opening :: .blockComment opening :: modes .code rest
  | .blockComment opening, _ :: rest =>
    .blockComment opening :: modes (.blockComment opening) rest

/-- The quote that is open at each place of a text when comments are removed. -/
def openQuotes (t : Text) : List (Option CodePoint) :=
  (modes .code t).map ScriptMode.quote?

/-- The quote that is open at each place of a text when its lines are cut at semicolons: the one
that what stands before the place on its line leaves open. Every line end counts by itself, so an
empty line stands between a carriage return and its line feed.
-/
def lineQuotes (t : Text) : List (Option CodePoint) :=
  (Text.linesBehind [] t).flatMap fun line =>
    line.inits.map fun front => (literalBehind none front).map LineLiteral.quote

/-- There is a mode at each place of a text. -/
theorem length_modes (mode : ScriptMode) (t : Text) : (modes mode t).length = t.length + 1 := by
  fun_induction modes mode t <;> simp_all

theorem modes_code {c : CodePoint} {rest : Text} (plain : ¬ OpensComment c rest)
    : modes .code (c :: rest) = .code :: modes (modeBehindCode c) rest := by
  rw [modes]
  · rintro _ rfl rfl
    exact plain ⟨rfl, Or.inl rfl⟩
  · rintro _ rfl rfl
    exact plain ⟨rfl, Or.inr rfl⟩

theorem modes_escape (quote c : CodePoint) (rest : Text)
    : modes (.literal quote) (CodePoint.backslash :: c :: rest)
      = .literal quote :: .literal quote :: modes (.literal quote) rest :=
  rfl

theorem modes_literal {c : CodePoint} {rest : Text} (plain : ¬ Escapes c rest)
    (quote : CodePoint)
    : modes (.literal quote) (c :: rest)
      = .literal quote :: modes (modeBehindLiteral quote c) rest := by
  rw [modes]
  rintro _ _ rfl rfl
  exact plain ⟨rfl, by simp⟩

theorem modes_block {c : CodePoint} {rest : Text} (goesOn : ¬ EndsComment c rest)
    (opening : OpenComment)
    : modes (.blockComment opening) (c :: rest)
      = .blockComment opening :: modes (.blockComment opening) rest := by
  rw [modes]
  rintro _ rfl rfl
  exact goesOn ⟨rfl, rfl⟩

theorem modes_line {c : CodePoint} (stays : c ≠ CodePoint.lineFeed) (rest : Text)
    : modes .lineComment (c :: rest) = .lineComment :: modes .lineComment rest := by
  rw [modes, if_neg stays]

theorem modes_lineEnds (rest : Text)
    : modes .lineComment (CodePoint.lineFeed :: rest) = .lineComment :: modes .code rest :=
  rfl

/-- A code point that the removal of comments takes together with the one behind it. -/
def TakesNext (c : CodePoint) (rest : Text) : Prop :=
  OpensComment c rest ∨ Escapes c rest ∨ EndsComment c rest

/-- At a place of a text the removal of comments goes on in a mode, unless the place lies between
two code points that are taken together.
-/
def GoesOn (mode : ScriptMode) (t : Text) : Prop :=
  ∀ i next,
    (modes mode t)[i]? = some next
      → (∃ left, stripped? mode t = (stripped? next (t.drop i)).map (left ++ ·))
        ∨ ∃ j c rest, i = j + 1 ∧ t.drop j = c :: rest ∧ TakesNext c rest

theorem GoesOn.here {mode : ScriptMode} {t : Text}
    : ∃ left, stripped? mode t = (stripped? mode (t.drop 0)).map (left ++ ·) :=
  ⟨[], by simp⟩

theorem GoesOn.cons {mode next : ScriptMode} {c : CodePoint} {rest : Text}
    (goesOn : GoesOn next rest) (kept : Text)
    (step : modes mode (c :: rest) = mode :: modes next rest)
    (left : stripped? mode (c :: rest) = (stripped? next rest).map (kept ++ ·))
    : GoesOn mode (c :: rest) := by
  intro i later here
  rw [step] at here
  cases i with
  | zero =>
      obtain rfl := Option.some.inj here
      exact .inl GoesOn.here
  | succ i =>
      rcases goesOn i later here with ⟨behind, same⟩ | ⟨j, d, others, rfl, cut, takes⟩
      · refine .inl ⟨kept ++ behind, ?_⟩
        rw [left, same, Option.map_map]
        simp [Function.comp_def]
      · exact .inr ⟨j + 1, d, others, rfl, cut, takes⟩

theorem GoesOn.pair {mode between next : ScriptMode} {c d : CodePoint} {rest : Text}
    (goesOn : GoesOn next rest) (kept : Text) (takes : TakesNext c (d :: rest))
    (step : modes mode (c :: d :: rest) = mode :: between :: modes next rest)
    (left : stripped? mode (c :: d :: rest) = (stripped? next rest).map (kept ++ ·))
    : GoesOn mode (c :: d :: rest) := by
  intro i later here
  rw [step] at here
  match i with
  | 0 =>
      obtain rfl := Option.some.inj here
      exact .inl GoesOn.here
  | 1 => exact .inr ⟨0, c, d :: rest, rfl, rfl, takes⟩
  | i + 2 =>
      rcases goesOn i later here with ⟨behind, same⟩ | ⟨j, e, others, rfl, cut, takes⟩
      · refine .inl ⟨kept ++ behind, ?_⟩
        rw [left, same, Option.map_map]
        simp [Function.comp_def]
      · exact .inr ⟨j + 2, e, others, rfl, cut, takes⟩

/-- The modes of a text are those that its comments are removed in, step by step. -/
theorem stripped?_modes (mode : ScriptMode) (t : Text) : GoesOn mode t := by
  induction mode, t using strip_induction with
  | ended mode =>
      intro i next here
      cases mode <;> cases i <;> cases here <;> exact .inl GoesOn.here
  | lineOpens rest ih =>
      exact ih.pair [] (.inl ⟨rfl, .inl rfl⟩) rfl (by simp [stripped?_lineOpens])
  | blockOpens rest ih =>
      refine (ih anyOpening).pair [] (.inl ⟨rfl, .inr rfl⟩) rfl ?_
      simp [stripped?_blockOpens anyOpening]
  | code c rest plain ih => exact ih.cons [c] (modes_code plain) (stripped?_code plain)
  | escape quote c rest ih =>
      have takes : TakesNext CodePoint.backslash (c :: rest) := .inr (.inl ⟨rfl, by simp⟩)
      exact ih.pair [CodePoint.backslash, c] takes (modes_escape quote c rest)
        (stripped?_escape quote c rest)
  | literal quote c rest plain ih =>
      exact ih.cons [c] (modes_literal plain quote) (stripped?_literal plain quote)
  | lineEnds rest ih =>
      exact ih.cons [CodePoint.lineFeed] (modes_lineEnds rest) (stripped?_lineEnds rest)
  | line c rest stays ih =>
      exact ih.cons [] (modes_line stays rest) (by simp [stripped?_line stays])
  | blockEnds opening rest ih =>
      exact ih.pair [] (.inr (.inr ⟨rfl, rfl⟩)) rfl (by simp [stripped?_blockEnds])
  | block opening c rest goesOn ih =>
      exact ih.cons _ (modes_block goesOn opening) (stripped?_block goesOn opening)

/-- The literals among code points with roles and places, each with the place that it begins at. -/
def literalsAmong (entries : List ((CodePoint × Role) × Nat)) : List (Nat × Text) :=
  ((entries.filter (·.1.2.isLiteral)).splitBy fun _ next => next.1.2 ≠ .literal true).filterMap
    fun run => run.head?.map fun first => (first.2, run.map (·.1.1))

/-- The literals of a text, each with the place that it begins at. -/
def literalsAt (t : Text) : List (Nat × Text) :=
  literalsAmong (roles .code t).zipIdx

-----------------------------------------------------------------------------------------
-- Texts with closed literals
-----------------------------------------------------------------------------------------

/-- A text from a place on, in which every quote belongs to a literal that is closed on its line and
no slash stands outside of these, with the literals and their places.
-/
inductive Closes : Nat → Text → List (Nat × Text) → Prop where
  | nil {n : Nat} : Closes n [] []
  | plain {n : Nat} {c : CodePoint} {rest : Text} {literals : List (Nat × Text)} :
      isQuote c = false → c ≠ CodePoint.slash → Closes (n + 1) rest literals →
      Closes n (c :: rest) literals
  | literal {n : Nat} {quote : CodePoint} {body rest : Text} {literals : List (Nat × Text)} :
      isQuote quote = true → LiteralBody quote body →
      Closes (n + (body.length + 2)) rest literals →
      Closes n (quote :: (body ++ quote :: rest)) ((n, quote :: (body ++ [quote])) :: literals)

theorem Closes.append {n : Nat} {front back : Text} {first second : List (Nat × Text)}
    (closes : Closes n front first) (later : Closes (n + front.length) back second)
    : Closes n (front ++ back) (first ++ second) := by
  induction closes with
  | nil => exact later
  | plain unquoted noSlash _ ih =>
      refine .plain unquoted noSlash (ih ?_)
      rwa [Nat.add_assoc, Nat.add_comm 1]
  | @literal n quote body rest literals opens enclosed _ ih =>
      have longer := Closes.literal opens enclosed (ih (by
        convert later using 1
        simp only [List.length_cons, List.length_append]
        omega))
      simpa using longer

/-- Texts without quotes and slashes. -/
def Unmarked (t : Text) : Prop :=
  ∀ c ∈ t, isQuote c = false ∧ c ≠ CodePoint.slash

theorem Unmarked.append {front back : Text} (frontUnmarked : Unmarked front)
    (backUnmarked : Unmarked back)
    : Unmarked (front ++ back) :=
  fun c member => (List.mem_append.mp member).elim (frontUnmarked c) (backUnmarked c)

/-- A text without marks has no literals, by list induction. -/
theorem Unmarked.closes {t : Text} (unmarked : Unmarked t) (n : Nat) : Closes n t [] := by
  induction t generalizing n with
  | nil => exact .nil
  | cons c rest ih =>
      obtain ⟨unquoted, noSlash⟩ := unmarked c List.mem_cons_self
      have later := ih fun d member => unmarked d (List.mem_cons_of_mem _ member)
      exact .plain unquoted noSlash (later _)

-----------------------------------------------------------------------------------------
-- The scanners on texts with closed literals
-----------------------------------------------------------------------------------------

/-- A literal is open up to its closing quote when comments are removed, by induction on its body.
-/
theorem modes_body {quote : CodePoint} {body : Text} (literal : LiteralBody quote body)
    (unescaped : quote ≠ CodePoint.backslash) (rest : Text)
    : modes (.literal quote) (body ++ quote :: rest)
      = List.replicate (body.length + 1) (.literal quote) ++ modes .code rest := by
  induction literal with
  | nil =>
      have plain : ¬ Escapes quote rest := fun escapes => unescaped escapes.1
      rw [List.nil_append, modes_literal plain]
      simp [modeBehindLiteral]
  | @plain c inner other plain stays _ ih =>
      have plain' : ¬ Escapes c (inner ++ quote :: rest) := fun escapes => plain escapes.1
      rw [List.cons_append, modes_literal plain', modeBehindLiteral_of_ne other stays, ih]
      rfl
  | @escape c inner _ _ ih =>
      rw [List.cons_append, List.cons_append, modes_escape, ih]
      rfl

/-- The roles in a literal, by induction on its body. -/
theorem roles_closed {quote : CodePoint} {body : Text} (literal : LiteralBody quote body)
    (unescaped : quote ≠ CodePoint.backslash) (rest : Text)
    : roles (.literal quote) (body ++ quote :: rest)
      = (body ++ [quote]).map (·, .literal false) ++ roles .code rest := by
  induction literal with
  | nil =>
      have plain : ¬ Escapes quote rest := fun escapes => unescaped escapes.1
      rw [List.nil_append, roles_literal plain]
      simp [modeBehindLiteral]
  | @plain c inner other plain stays _ ih =>
      have plain' : ¬ Escapes c (inner ++ quote :: rest) := fun escapes => plain escapes.1
      rw [List.cons_append, roles_literal plain', modeBehindLiteral_of_ne other stays, ih]
      rfl
  | @escape c inner _ _ ih =>
      rw [List.cons_append, List.cons_append, roles_escape, ih]
      rfl

/-- The quote that is open at each place of a text behind the beginning of a line. -/
def quotesFrom (opened : Option LineLiteral) : Text → List (Option CodePoint)
  | [] => [opened.map LineLiteral.quote]
  | c :: rest =>
    opened.map LineLiteral.quote
      :: quotesFrom (if c.isLineEnd then none else literalAfter c opened) rest

/-- On a line the quote that is open depends on what stands before a place, by list induction. -/
theorem quotesFrom_line {line : Text} (single : Text.OnOneLine line) (opened : Option LineLiteral)
    : quotesFrom opened line
      = line.inits.map fun front => (literalBehind opened front).map LineLiteral.quote := by
  induction line generalizing opened with
  | nil => rfl
  | cons c rest ih =>
      have stays := single c List.mem_cons_self
      rw [quotesFrom, stays, ih fun d member => single d (List.mem_cons_of_mem _ member),
        List.inits_cons, List.map_cons, List.map_map]
      rfl

/-- Behind a line end no quote is open, by list induction. -/
theorem quotesFrom_append {c : CodePoint} (ends : c.isLineEnd = true) (opened : Option LineLiteral)
    (front rest : Text)
    : quotesFrom opened (front ++ c :: rest) = quotesFrom opened front ++ quotesFrom none rest := by
  induction front generalizing opened with
  | nil => rw [List.nil_append, quotesFrom, quotesFrom, if_pos ends, List.singleton_append]
  | cons d others ih => rw [List.cons_append, quotesFrom, ih, quotesFrom, List.cons_append]

/-- The quotes that are open on the lines of a text, by list induction. -/
theorem flatMap_linesBehind {front : Text} (single : Text.OnOneLine front) (t : Text)
    : ((Text.linesBehind front t).flatMap fun line =>
          line.inits.map fun front => (literalBehind none front).map LineLiteral.quote)
      = quotesFrom none (front ++ t) := by
  induction t generalizing front with
  | nil =>
      rw [List.append_nil, Text.linesBehind, quotesFrom_line single]
      simp
  | cons c rest ih =>
      cases ends : c.isLineEnd with
      | true =>
          rw [Text.linesBehind_of_ends ends, List.flatMap_cons, ih Text.onOneLine_nil,
            quotesFrom_append ends, quotesFrom_line single, List.nil_append]
      | false =>
          rw [Text.linesBehind_of_stays ends, ih (single.concat ends), List.append_assoc]
          rfl

theorem lineQuotes_eq (t : Text) : lineQuotes t = quotesFrom none t :=
  flatMap_linesBehind Text.onOneLine_nil t

/-- A literal is open up to its closing quote on its line, by induction on its body. -/
theorem quotesFrom_literal {quote : CodePoint} {body : Text} (literal : LiteralBody quote body)
    (unescaped : quote ≠ CodePoint.backslash) (stays : quote.isLineEnd = false) (rest : Text)
    : quotesFrom (some ⟨quote, false⟩) (body ++ quote :: rest)
      = List.replicate (body.length + 1) (some quote) ++ quotesFrom none rest := by
  have backslash : CodePoint.backslash.isLineEnd = false := by decide
  induction literal with
  | nil => simp [quotesFrom, literalAfter, unescaped, stays]
  | plain other plain here _ ih => simp [quotesFrom, literalAfter, other, plain, here, ih,
      List.replicate_succ]
  | escape here _ ih => simp [quotesFrom, literalAfter, here, backslash, ih, List.replicate_succ]

variable {n : Nat} {t : Text} {lits : List (Nat × Text)}

/-- The quotes of a literal between two quotes. -/
theorem openQuotes_literal {quote : CodePoint} {body : Text} (opens : isQuote quote = true)
    (literal : LiteralBody quote body) (rest : Text)
    : openQuotes (quote :: (body ++ quote :: rest))
      = none :: (List.replicate (body.length + 1) (some quote) ++ openQuotes rest) := by
  obtain ⟨unescaped, noSlash, -⟩ := backslash_of_isQuote opens
  rw [openQuotes, modes_code (not_opensComment noSlash _), modeBehindCode_of_isQuote opens,
    modes_body literal unescaped, List.map_cons, List.map_append, List.map_replicate]
  rfl

theorem openQuotes_plain {c : CodePoint} (unquoted : isQuote c = false)
    (noSlash : c ≠ CodePoint.slash) (rest : Text)
    : openQuotes (c :: rest) = none :: openQuotes rest := by
  rw [openQuotes, modes_code (not_opensComment noSlash _), modeBehindCode_of_unquoted unquoted]
  rfl

/-- The two scanners have the same quotes open, literal by literal. -/
theorem Closes.openQuotes_eq (closes : Closes n t lits) : openQuotes t = lineQuotes t := by
  rw [lineQuotes_eq]
  induction closes with
  | nil => rfl
  | @plain n c rest literals unquoted noSlash _ ih =>
      have outside : (if c.isLineEnd then none else literalAfter c none) = none := by
        simp [literalAfter, unquoted]
      rw [openQuotes_plain unquoted noSlash, ih, quotesFrom, outside]
      rfl
  | literal opens literal _ ih =>
      obtain ⟨unescaped, -, -⟩ := backslash_of_isQuote opens
      have stays := isLineEnd_of_isQuote opens
      rw [openQuotes_literal opens literal, ih, quotesFrom, stays, literalAfter, if_pos opens]
      exact congrArg _ (quotesFrom_literal literal unescaped stays _).symm

/-- The literals of a text stand at their places, each on a line, literal by literal. -/
theorem Closes.stands (closes : Closes n t lits) {found : Nat × Text} (member : found ∈ lits)
    : ∃ front back : Text,
        t = front ++ found.2 ++ back
        ∧ found.1 = n + front.length
        ∧ Text.OnOneLine found.2 := by
  induction closes with
  | nil => cases member
  | @plain n c rest literals _ _ _ ih =>
      obtain ⟨front, back, rfl, place, single⟩ := ih member
      refine ⟨c :: front, back, rfl, ?_, single⟩
      rw [place, List.length_cons]
      omega
  | @literal n quote body rest literals opens literal _ ih =>
      rcases List.mem_cons.mp member with rfl | later
      · exact ⟨[], rest, by simp, rfl, (Inert.literal opens literal .nil).onOneLine⟩
      · obtain ⟨front, back, rfl, place, single⟩ := ih later
        refine ⟨quote :: (body ++ quote :: front), back, by simp, ?_, single⟩
        rw [place]
        simp only [List.length_cons, List.length_append]
        omega

theorem Closes.le (closes : Closes n t lits) {found : Nat × Text} (member : found ∈ lits)
    : n ≤ found.1 := by
  obtain ⟨front, back, -, place, -⟩ := closes.stands member
  omega

/-- A quote is open exactly between the two ends of a literal, literal by literal. -/
theorem Closes.open_iff (closes : Closes n t lits) (i : Nat) (quote : CodePoint)
    : (openQuotes t)[i]? = some (some quote)
      ↔ ∃ found ∈ lits,
          found.1 < n + i ∧ n + i < found.1 + found.2.length ∧ found.2.head? = some quote := by
  induction closes generalizing i with
  | nil => cases i <;> simp [openQuotes, modes, ScriptMode.quote?]
  | @plain n c rest literals unquoted noSlash closes ih =>
      rw [openQuotes_plain unquoted noSlash]
      cases i with
      | zero =>
          constructor
          · intro here
            cases here
          · rintro ⟨found, member, before, -⟩
            exact absurd (closes.le member) (by omega)
      | succ i =>
          rw [List.getElem?_cons_succ, ih, Nat.add_assoc, Nat.add_comm 1]
  | @literal n opening body rest literals opens literal closes ih =>
      rw [openQuotes_literal opens literal]
      have length : (opening :: (body ++ [opening])).length = body.length + 2 := by simp
      cases i with
      | zero =>
          constructor
          · intro here
            cases here
          · rintro ⟨found, member, before, -⟩
            rcases List.mem_cons.mp member with rfl | member
            · exact absurd before (Nat.lt_irrefl _)
            · exact absurd (closes.le member) (by omega)
      | succ i =>
          rw [List.getElem?_cons_succ]
          by_cases within : i < body.length + 1
          · rw [List.getElem?_append_left (by simpa using within), List.getElem?_replicate,
              if_pos within]
            constructor
            · intro same
              refine ⟨_, List.mem_cons_self, by omega, ?_, ?_⟩
              · rw [length]
                omega
              · simpa using same
            · rintro ⟨found, member, before, -, head⟩
              rcases List.mem_cons.mp member with rfl | member
              · simpa using head
              · exact absurd (closes.le member) (by omega)
          · obtain ⟨j, rfl⟩ := Nat.exists_eq_add_of_le (Nat.le_of_not_lt within)
            rw [List.getElem?_append_right (by simp), List.length_replicate,
              Nat.add_sub_cancel_left, ih]
            have same : n + (body.length + 2) + j = n + (body.length + 1 + j + 1) := by omega
            rw [same]
            constructor
            · rintro ⟨found, member, inside⟩
              exact ⟨found, List.mem_cons_of_mem _ member, inside⟩
            · rintro ⟨found, member, before, behind, head⟩
              rcases List.mem_cons.mp member with rfl | member
              · rw [length] at behind
                omega
              · exact ⟨found, member, before, behind, head⟩

theorem length_openQuotes (t : Text) : (openQuotes t).length = t.length + 1 := by
  rw [openQuotes, List.length_map, length_modes]

/-- No quote is open where a line ends. -/
theorem Closes.lineEnd (closes : Closes n t lits) {i : Nat} (inside : i ≤ t.length)
    (ends : ∀ c, t[i]? = some c → c.isLineEnd = true)
    : (openQuotes t)[i]? = some none := by
  have some : i < (openQuotes t).length := by
    rw [length_openQuotes]
    omega
  rw [List.getElem?_eq_getElem some]
  cases opened : (openQuotes t)[i] with
  | none => rfl
  | some quote =>
      -- the place would lie in a literal, and so on its line
      rw [List.getElem_eq_iff] at opened
      obtain ⟨found, member, before, behind, -⟩ := (closes.open_iff i quote).mp opened
      obtain ⟨front, back, rfl, place, single⟩ := closes.stands member
      have within : i - front.length < found.2.length := by omega
      have stays := single _ (List.getElem_mem within)
      rw [ends found.2[i - front.length] ?_] at stays
      · cases stays
      · rw [List.append_assoc, List.getElem?_append_right (by omega),
          List.getElem?_append_left within, List.getElem?_eq_getElem within]

/-- The first literal among code points with roles begins there. -/
def BeginsFresh (entries : List ((CodePoint × Role) × Nat)) : Prop :=
  ∀ entry ∈ (entries.filter (·.1.2.isLiteral)).head?, entry.1.2 = .literal true

theorem literalsAmong_cons {entry : (CodePoint × Role) × Nat}
    (outside : entry.1.2.isLiteral = false) (rest : List ((CodePoint × Role) × Nat))
    : literalsAmong (entry :: rest) = literalsAmong rest := by
  rw [literalsAmong, List.filter_cons_of_neg (by simp [outside]), literalsAmong]

/-- A literal that begins and goes on is one literal, unless what follows goes on with it. -/
theorem literalsAmong_append {first : (CodePoint × Role) × Nat}
    {inner rest : List ((CodePoint × Role) × Nat)} (begins : first.1.2 = .literal true)
    (goesOn : ∀ entry ∈ inner, entry.1.2 = .literal false) (fresh : BeginsFresh rest)
    : literalsAmong (first :: inner ++ rest)
      = (first.2, (first :: inner).map (·.1.1)) :: literalsAmong rest := by
  have allLiteral : ∀ entry ∈ first :: inner, entry.1.2.isLiteral = true := by
    intro entry member
    rcases List.mem_cons.mp member with rfl | inside
    · rw [begins, Role.isLiteral]
    · rw [goesOn entry inside, Role.isLiteral]
  have chain : (first :: inner).IsChain fun _ next => decide (next.1.2 ≠ .literal true) = true := by
    refine List.Pairwise.isChain (List.pairwise_cons.mpr ⟨fun next inside => ?_, ?_⟩)
    · simp [goesOn next inside]
    · exact List.pairwise_of_forall_mem_list fun _ _ next inside => by simp [goesOn next inside]
  have parts : ∀ x ∈ (first :: inner).getLast?, ∀ y ∈ (rest.filter (·.1.2.isLiteral)).head?,
      decide (y.1.2 ≠ .literal true) = false := by
    intro _ _ next head
    simp [fresh next head]
  rw [literalsAmong, List.filter_append, List.filter_eq_self.mpr allLiteral,
    List.splitBy_append parts, List.splitBy_of_isChain (List.cons_ne_nil first inner) chain]
  rfl

/-- The literals of a text with closed literals are these, literal by literal. -/
theorem Closes.literalsAmong_eq (closes : Closes n t lits)
    : literalsAmong ((roles .code t).zipIdx n) = lits
      ∧ BeginsFresh ((roles .code t).zipIdx n) := by
  induction closes with
  | nil => exact ⟨rfl, fun _ head => absurd head (by simp [roles_nil])⟩
  | @plain n c rest literals unquoted noSlash _ ih =>
      rw [roles_code (not_opensComment noSlash _), modeBehindCode_of_unquoted unquoted, unquoted,
        List.zipIdx_cons]
      refine ⟨(literalsAmong_cons rfl _).trans ih.1, fun entry head => ih.2 entry ?_⟩
      simpa [Role.isLiteral] using head
  | @literal n quote body rest literals opens literal _ ih =>
      obtain ⟨unescaped, noSlash, -⟩ := backslash_of_isQuote opens
      have length : ((body ++ [quote]).map fun c => (c, Role.literal false)).length
          = body.length + 1 := by
        simp
      rw [roles_code (not_opensComment noSlash _), modeBehindCode_of_isQuote opens, opens,
        roles_closed literal unescaped, List.zipIdx_cons, List.zipIdx_append, length,
        ← List.cons_append, Nat.add_assoc, Nat.add_comm 1, Nat.add_assoc]
      refine ⟨?_, fun entry head => ?_⟩
      · rw [literalsAmong_append rfl ?_ ih.2, ih.1, List.map_cons, ← Function.comp_def,
          ← List.map_map, List.zipIdx_map_fst, List.map_map]
        · simp [Function.comp_def]
        · intro entry member
          have inside := List.fst_mem_of_mem_zipIdx member
          obtain ⟨c, -, same⟩ := List.mem_map.mp inside
          rw [← same]
      · have first : entry = ((quote, .literal true), n) := by
          simpa [Role.isLiteral, eq_comm] using head
        rw [first]

theorem Closes.literalsAt_eq (closes : Closes 0 t lits) : literalsAt t = lits :=
  closes.literalsAmong_eq.1

end Script

end Recommender
