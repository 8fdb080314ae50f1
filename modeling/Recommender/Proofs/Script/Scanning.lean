import Recommender.Proofs.Text.Classes
import Recommender.Proofs.Text.Lines
import Recommender.Script.Literal
import Recommender.Script.Statement

/-! The two scanners of a script, the one that removes comments and the one that cuts lines at
semicolons. Both pass over a line whose marks all lie inside closed literals.
-/

namespace Recommender.Script

/-- The bodies of literals: no line end, no quote of the enclosing kind and no backslash, except
behind a backslash.
-/
inductive LiteralBody (quote : CodePoint) : Text → Prop where
  | nil : LiteralBody quote []
  | plain {c : CodePoint} {rest : Text} :
      c ≠ quote → c ≠ CodePoint.backslash → c.isLineEnd = false →
      LiteralBody quote rest → LiteralBody quote (c :: rest)
  | escape {c : CodePoint} {rest : Text} :
      c.isLineEnd = false → LiteralBody quote rest →
      LiteralBody quote (CodePoint.backslash :: c :: rest)

/-- Pieces of lines in which every quote belongs to a closed literal and in which no slash and no
semicolon stands outside a literal.
-/
inductive Inert : Text → Prop where
  | nil : Inert []
  | plain {c : CodePoint} {rest : Text} :
      isQuote c = false → c ≠ CodePoint.slash → c ≠ CodePoint.semicolon → c.isLineEnd = false →
      Inert rest → Inert (c :: rest)
  | literal {quote : CodePoint} {body rest : Text} :
      isQuote quote = true → LiteralBody quote body → Inert rest →
      Inert (quote :: (body ++ quote :: rest))

-----------------------------------------------------------------------------------------
-- Shapes of inert texts
-----------------------------------------------------------------------------------------

theorem LiteralBody.append {quote : CodePoint} {front back : Text}
    (frontBody : LiteralBody quote front) (backBody : LiteralBody quote back)
    : LiteralBody quote (front ++ back) := by
  induction frontBody with
  | nil => exact backBody
  | plain other unescaped stays _ ih => exact .plain other unescaped stays ih
  | escape stays _ ih => exact .escape stays ih

theorem LiteralBody.onOneLine {quote : CodePoint} {body : Text} (literal : LiteralBody quote body)
    : Text.OnOneLine body := by
  induction literal with
  | nil => simp [Text.OnOneLine]
  | plain _ _ stays _ ih => simpa [Text.OnOneLine, stays] using ih
  | escape stays _ ih =>
      have backslash : CodePoint.backslash.isLineEnd = false := by decide
      simpa [Text.OnOneLine, stays, backslash] using ih

theorem Inert.append {front back : Text} (frontInert : Inert front) (backInert : Inert back)
    : Inert (front ++ back) := by
  induction frontInert with
  | nil => exact backInert
  | plain unquoted noSlash noSemicolon stays _ ih =>
      exact .plain unquoted noSlash noSemicolon stays ih
  | literal opens body _ ih =>
      have longer := Inert.literal opens body ih
      simpa using longer

/-- A quote ends no line. -/
theorem isLineEnd_of_isQuote {c : CodePoint} (quote : isQuote c = true) : c.isLineEnd = false := by
  simp only [isQuote, Bool.or_eq_true, decide_eq_true_eq] at quote
  rcases quote with rfl | rfl <;> decide

theorem Inert.onOneLine {t : Text} (inert : Inert t) : Text.OnOneLine t := by
  induction inert with
  | nil => simp [Text.OnOneLine]
  | plain _ _ _ stays _ ih => simpa [Text.OnOneLine, stays] using ih
  | literal opens body _ ih =>
      have stays := isLineEnd_of_isQuote opens
      intro c member
      simp only [List.mem_cons, List.mem_append] at member
      rcases member with rfl | inside | rfl | later
      · exact stays
      · exact body.onOneLine c inside
      · exact stays
      · exact ih c later

theorem isQuote_of_isBare {c : CodePoint} (bare : c.isBare = true) : isQuote c = false := by
  have single : c ≠ CodePoint.singleQuote := CodePoint.ne_of_isBare bare (by decide)
  have double : c ≠ CodePoint.doubleQuote := CodePoint.ne_of_isBare bare (by decide)
  simp [isQuote, single, double]

/-- What names, paths and numbers are made of is inert, by list induction. -/
theorem inert_of_bare {t : Text} (bare : Text.Bare t) : Inert t := by
  induction t with
  | nil => exact .nil
  | cons c rest ih =>
      have first := bare c List.mem_cons_self
      exact .plain (isQuote_of_isBare first) (CodePoint.ne_of_isBare first (by decide))
        (CodePoint.ne_of_isBare first (by decide)) (CodePoint.isLineEnd_of_isBare first)
        (ih fun c' member => bare c' (List.mem_cons_of_mem _ member))

-----------------------------------------------------------------------------------------
-- The closing quote
-----------------------------------------------------------------------------------------

/-- What may stand between two quotes: no line feed, no quote of the same kind and no backslash,
except behind a backslash, where a line feed cannot stand either.
-/
inductive Enclosed (quote : CodePoint) : Text → Prop where
  | nil : Enclosed quote []
  | plain {c : CodePoint} {rest : Text} :
      c ≠ quote → c ≠ CodePoint.backslash → c ≠ CodePoint.lineFeed → Enclosed quote rest →
      Enclosed quote (c :: rest)
  | escape {c : CodePoint} {rest : Text} :
      c ≠ CodePoint.lineFeed → Enclosed quote rest →
      Enclosed quote (CodePoint.backslash :: c :: rest)

/-- What may stand between two quotes is found there, by induction on it. -/
theorem literalBody?_of_enclosed {quote : CodePoint} {body : Text} (enclosed : Enclosed quote body)
    : literalBody? quote (body ++ [quote]) = some body := by
  induction enclosed with
  | nil => simp [literalBody?]
  | @plain c rest noQuote noBackslash noLineFeed _ ih =>
      rw [List.cons_append, literalBody?]
      · simp [noQuote, noBackslash, noLineFeed, ih]
      · exact fun _ _ same _ => noBackslash same
      · simp
  | @escape c rest noLineFeed _ ih =>
      have step : literalBody? quote (CodePoint.backslash :: c :: (rest ++ [quote]))
          = if c = CodePoint.lineFeed then none
            else (CodePoint.backslash :: c :: ·) <$> literalBody? quote (rest ++ [quote]) := rfl
      rw [List.cons_append, List.cons_append, step, if_neg noLineFeed, ih]
      rfl

/-- The body of a literal on one line may stand between its quotes, by induction on the body. -/
theorem LiteralBody.enclosed {quote : CodePoint} {body : Text} (literal : LiteralBody quote body)
    : Enclosed quote body := by
  induction literal with
  | nil => exact .nil
  | plain other unescaped stays _ ih =>
      exact .plain other unescaped (CodePoint.ne_lineFeed stays) ih
  | escape stays _ ih => exact .escape (CodePoint.ne_lineFeed stays) ih

/-- What may stand between the quotes of a literal on one line is its body, by induction on it. -/
theorem Enclosed.literalBody {quote : CodePoint} {body : Text} (enclosed : Enclosed quote body)
    (single : Text.OnOneLine body)
    : LiteralBody quote body := by
  induction enclosed with
  | nil => exact .nil
  | @plain c rest noQuote noBackslash _ _ ih =>
      exact .plain noQuote noBackslash (single c List.mem_cons_self)
        (ih fun d member => single d (List.mem_cons_of_mem _ member))
  | @escape c rest _ _ ih =>
      exact .escape (single c (by simp)) (ih fun d member => single d (by simp [member]))

/-- The body of a literal is found in front of its closing quote. -/
theorem literalBody?_append {quote : CodePoint} {body : Text} (literal : LiteralBody quote body)
    : literalBody? quote (body ++ [quote]) = some body :=
  literalBody?_of_enclosed literal.enclosed

-----------------------------------------------------------------------------------------
-- Comments
-----------------------------------------------------------------------------------------

theorem lineAfter_of_stays {c : CodePoint} (stays : c.isLineEnd = false) (line : Nat)
    : lineAfter line c = line := by
  simp [lineAfter, CodePoint.ne_lineFeed stays]

/-- Outside literals a code point that is no slash is kept. -/
theorem stripFrom_code {c : CodePoint} (noSlash : c ≠ CodePoint.slash) (line : Nat) (rest : Text)
    : stripFrom line .code (c :: rest)
      = (c :: ·)
          <$> stripFrom (lineAfter line c) (if isQuote c then .literal c else .code) rest := by
  rw [stripFrom]
  · exact fun _ same _ => noSlash same
  · exact fun _ same _ => noSlash same

/-- Inside a literal a backslash takes the next code point along. -/
theorem stripFrom_escape (line : Nat) (quote c : CodePoint) (rest : Text)
    : stripFrom line (.literal quote) (CodePoint.backslash :: c :: rest)
      = (CodePoint.backslash :: c :: ·) <$> stripFrom (lineAfter line c) (.literal quote) rest :=
  rfl

/-- A literal is kept to its closing quote, by induction on its body. -/
theorem stripFrom_literal {quote : CodePoint} {body : Text} (literal : LiteralBody quote body)
    (unescaped : quote ≠ CodePoint.backslash) (stays : quote.isLineEnd = false) (line : Nat)
    (rest : Text)
    : stripFrom line (.literal quote) (body ++ quote :: rest)
      = (body ++ quote :: ·) <$> stripFrom line .code rest := by
  induction literal with
  | nil =>
      rw [List.nil_append, stripFrom]
      · simp [lineAfter_of_stays stays]
      · exact fun _ _ same _ => unescaped same
  | @plain c inner other plain staysHere _ ih =>
      have noLineFeed := CodePoint.ne_lineFeed staysHere
      rw [List.cons_append, stripFrom]
      · simp [lineAfter_of_stays staysHere, other, noLineFeed, ih]
      · exact fun _ _ same _ => plain same
  | @escape c inner staysHere _ ih =>
      rw [List.cons_append, List.cons_append, stripFrom_escape, lineAfter_of_stays staysHere, ih]
      simp

theorem backslash_of_isQuote {c : CodePoint} (quote : isQuote c = true)
    : c ≠ CodePoint.backslash ∧ c ≠ CodePoint.slash ∧ c ≠ CodePoint.semicolon := by
  simp only [isQuote, Bool.or_eq_true, decide_eq_true_eq] at quote
  rcases quote with rfl | rfl <;> decide

/-- An inert text is kept, by induction on its shape. -/
theorem stripFrom_inert {t : Text} (inert : Inert t) (line : Nat) (rest : Text)
    : stripFrom line .code (t ++ rest) = (t ++ ·) <$> stripFrom line .code rest := by
  induction inert with
  | nil => simp
  | plain unquoted noSlash _ stays _ ih =>
      rw [List.cons_append, stripFrom_code noSlash, lineAfter_of_stays stays, unquoted]
      simp [ih]
  | literal opens body _ ih =>
      obtain ⟨unescaped, noSlash, _⟩ := backslash_of_isQuote opens
      have stays := isLineEnd_of_isQuote opens
      rw [List.cons_append, stripFrom_code noSlash, lineAfter_of_stays stays, opens, if_pos rfl,
        List.append_assoc, List.cons_append, stripFrom_literal body unescaped stays, ih]
      simp

/-- The rest of a line comment is dropped up to the line feed, by list induction. -/
theorem stripFrom_lineComment {t : Text} (unended : CodePoint.lineFeed ∉ t) (line : Nat)
    (rest : Text)
    : stripFrom line .lineComment (t ++ CodePoint.lineFeed :: rest)
      = (CodePoint.lineFeed :: ·) <$> stripFrom (line + 1) .code rest := by
  induction t with
  | nil => simp [stripFrom]
  | cons c others ih =>
      rw [List.mem_cons, not_or] at unended
      rw [List.cons_append, stripFrom, if_neg (Ne.symm unended.1)]
      exact ih unended.2

/-- A line is left as another one when its comments are removed, whatever lines follow. -/
def StripsTo (written left : Text) : Prop :=
  ∀ line rest,
    stripFrom line .code (written ++ CodePoint.lineFeed :: rest)
      = (left ++ CodePoint.lineFeed :: ·) <$> stripFrom (line + 1) .code rest

theorem stripsTo_of_inert {t : Text} (inert : Inert t) : StripsTo t t := by
  intro line rest
  have ended : stripFrom line .code (CodePoint.lineFeed :: rest)
      = (CodePoint.lineFeed :: ·) <$> stripFrom (line + 1) .code rest :=
    stripFrom_code (by decide) line rest
  rw [stripFrom_inert inert, ended]
  simp

/-- Nothing is left of a comment line. -/
theorem stripsTo_comment {t : Text} (single : Text.OnOneLine t)
    : StripsTo (CodePoint.slash :: CodePoint.slash :: t) [] := by
  intro line rest
  have unended : CodePoint.lineFeed ∉ t := fun member => by cases single _ member
  exact stripFrom_lineComment unended line rest

/-- Lines, each given with what is left of it, are stripped one by one, by list induction. -/
theorem strip_ended {lines : List (Text × Text)} (each : ∀ l ∈ lines, StripsTo l.1 l.2)
    : strip (Text.ended (lines.map Prod.fst)) = .ok (Text.ended (lines.map Prod.snd)) := by
  have fromLine (line : Nat)
      : stripFrom line .code (Text.ended (lines.map Prod.fst))
        = .ok (Text.ended (lines.map Prod.snd)) := by
    induction lines generalizing line with
    | nil => rfl
    | cons first rest ih =>
        rw [List.map_cons, Text.ended_cons, each first List.mem_cons_self,
          ih fun l member => each l (List.mem_cons_of_mem _ member), List.map_cons,
          Text.ended_cons]
        rfl
  exact fromLine 1

-----------------------------------------------------------------------------------------
-- Semicolons
-----------------------------------------------------------------------------------------

/-- No cut falls into a literal, by induction on its body. -/
theorem pieces_literal {quote : CodePoint} {body : Text} (literal : LiteralBody quote body)
    (unescaped : quote ≠ CodePoint.backslash) (rest : Text)
    : pieces (some ⟨quote, false⟩) (body ++ quote :: rest)
      = (body ++ [quote]).foldr Text.addToFirst (pieces none rest) := by
  induction literal with
  | nil => simp [pieces, literalAfter, unescaped]
  | plain other plain _ _ ih => simp [pieces, literalAfter, other, plain, ih]
  | escape _ _ ih => simp [pieces, literalAfter, ih]

/-- No cut falls into an inert text, by induction on its shape. -/
theorem pieces_inert {t : Text} (inert : Inert t) (rest : Text)
    : pieces none (t ++ rest) = t.foldr Text.addToFirst (pieces none rest) := by
  induction inert with
  | nil => rfl
  | plain unquoted _ noSemicolon _ _ ih => simp [pieces, literalAfter, unquoted, noSemicolon, ih]
  | literal opens body _ ih =>
      obtain ⟨unescaped, _, noSemicolon⟩ := backslash_of_isQuote opens
      simp [pieces, literalAfter, opens, noSemicolon, pieces_literal body unescaped, ih]

/-- A semicolon behind an inert text ends the piece before it. -/
theorem pieces_semicolon {t : Text} (inert : Inert t) (rest : Text)
    : pieces none (t ++ CodePoint.semicolon :: rest) = t :: pieces none rest := by
  have cut : pieces none (CodePoint.semicolon :: rest) = [] :: pieces none rest := rfl
  rw [pieces_inert inert, cut, Text.foldr_addToFirst_cons]

/-- An inert line is one statement at most. -/
theorem statements_of_inert {t : Text} (inert : Inert t)
    : statements t = [t.trim].filter (· ≠ []) := by
  have whole : pieces none t = [t] := by
    rw [← List.append_nil t, pieces_inert inert, pieces, Text.foldr_addToFirst_cons,
      List.append_nil]
  rw [statements, whole, List.map_singleton]

/-- An inert line that is not blank at its ends is one statement. -/
theorem statements_inert {t : Text} (inert : Inert t) (trimmed : Text.Trimmed t)
    (nonempty : t ≠ [])
    : statements t = [t] := by
  simp [statements_of_inert inert, trimmed.trim, nonempty]

end Recommender.Script
