import Recommender.Proofs.Script.Outcome
import Recommender.Proofs.Script.Scanning

/-! Removing comments step by step. Lines are counted for faults alone, so what is left of a text
depends on the mode it begins in and on nothing before it.
-/

namespace Recommender.Script

/-- A code point that opens a comment with the one behind it. -/
def OpensComment (c : CodePoint) (rest : Text) : Prop :=
  c = CodePoint.slash
  ∧ (rest.head? = some CodePoint.slash ∨ rest.head? = some CodePoint.star)

instance (c : CodePoint) (rest : Text) : Decidable (OpensComment c rest) :=
  inferInstanceAs (Decidable (_ ∧ _))

/-- A code point that ends a block comment with the one behind it. -/
def EndsComment (c : CodePoint) (rest : Text) : Prop :=
  c = CodePoint.star ∧ rest.head? = some CodePoint.slash

instance (c : CodePoint) (rest : Text) : Decidable (EndsComment c rest) :=
  inferInstanceAs (Decidable (_ ∧ _))

/-- A code point that takes the one behind it along in a literal. -/
def Escapes (c : CodePoint) (rest : Text) : Prop :=
  c = CodePoint.backslash ∧ rest ≠ []

instance (c : CodePoint) (rest : Text) : Decidable (Escapes c rest) :=
  inferInstanceAs (Decidable (_ ∧ _))

/-- The mode behind a code point of the code that opens no comment. -/
def modeBehindCode (c : CodePoint) : ScriptMode :=
  if isQuote c then .literal c else .code

/-- The mode behind a code point of a literal that escapes nothing. -/
def modeBehindLiteral (quote c : CodePoint) : ScriptMode :=
  if c = quote || c = CodePoint.lineFeed then .code else .literal quote

theorem not_opensComment {c : CodePoint} (noSlash : c ≠ CodePoint.slash) (rest : Text)
    : ¬ OpensComment c rest :=
  fun opens => noSlash opens.1

theorem modeBehindCode_of_unquoted {c : CodePoint} (unquoted : isQuote c = false)
    : modeBehindCode c = .code := by
  simp [modeBehindCode, unquoted]

theorem modeBehindCode_of_isQuote {c : CodePoint} (opens : isQuote c = true)
    : modeBehindCode c = .literal c :=
  if_pos opens

/-- A literal goes on behind what stands in it. -/
theorem modeBehindLiteral_of_ne {quote c : CodePoint} (other : c ≠ quote)
    (stays : c.isLineEnd = false)
    : modeBehindLiteral quote c = .literal quote := by
  simp [modeBehindLiteral, other, CodePoint.ne_lineFeed stays]

/-- What holds wherever a text ends, and of each step of the removal of comments if it holds behind
the step, holds of every text in every mode. By strong induction on the length of the text.
-/
theorem strip_induction {motive : ScriptMode → Text → Prop}
    (ended : ∀ mode, motive mode [])
    (lineOpens
      : ∀ rest,
          motive .lineComment rest → motive .code (CodePoint.slash :: CodePoint.slash :: rest))
    (blockOpens
      : ∀ rest,
          (∀ opening, motive (.blockComment opening) rest)
            → motive .code (CodePoint.slash :: CodePoint.star :: rest))
    (code
      : ∀ c rest,
          ¬ OpensComment c rest → motive (modeBehindCode c) rest → motive .code (c :: rest))
    (escape
      : ∀ quote c rest,
          motive (.literal quote) rest
            → motive (.literal quote) (CodePoint.backslash :: c :: rest))
    (literal
      : ∀ quote c rest,
          ¬ Escapes c rest
            → motive (modeBehindLiteral quote c) rest → motive (.literal quote) (c :: rest))
    (lineEnds : ∀ rest, motive .code rest → motive .lineComment (CodePoint.lineFeed :: rest))
    (line
      : ∀ c rest,
          c ≠ CodePoint.lineFeed → motive .lineComment rest → motive .lineComment (c :: rest))
    (blockEnds
      : ∀ opening rest,
          motive .code rest
            → motive (.blockComment opening) (CodePoint.star :: CodePoint.slash :: rest))
    (block
      : ∀ opening c rest,
          ¬ EndsComment c rest
            → motive (.blockComment opening) rest → motive (.blockComment opening) (c :: rest))
    (mode : ScriptMode) (t : Text)
    : motive mode t := by
  induction length : t.length using Nat.strong_induction_on generalizing mode t with
  | _ n ih =>
      subst length
      cases t with
      | nil => exact ended mode
      | cons c rest =>
          have next (mode : ScriptMode) : motive mode rest := ih _ (by simp) mode rest rfl
          cases mode with
          | code =>
              by_cases opens : OpensComment c rest
              · obtain ⟨rfl, head⟩ := opens
                cases rest with
                | nil => simp at head
                | cons second rest =>
                    have later (mode : ScriptMode) : motive mode rest :=
                      ih _ (by simp only [List.length_cons]; omega) mode rest rfl
                    simp only [List.head?_cons, Option.some.injEq] at head
                    rcases head with rfl | rfl
                    · exact lineOpens rest (later _)
                    · exact blockOpens rest fun opening => later _
              · exact code c rest opens (next _)
          | literal quote =>
              by_cases escapes : Escapes c rest
              · obtain ⟨rfl, some⟩ := escapes
                obtain ⟨second, rest, rfl⟩ := List.exists_cons_of_ne_nil some
                exact escape quote second rest
                  (ih _ (by simp only [List.length_cons]; omega) _ rest rfl)
              · exact literal quote c rest escapes (next _)
          | lineComment =>
              by_cases ends : c = CodePoint.lineFeed
              · exact ends ▸ lineEnds rest (next _)
              · exact line c rest ends (next _)
          | blockComment opening =>
              by_cases ends : EndsComment c rest
              · obtain ⟨rfl, head⟩ := ends
                cases rest with
                | nil => simp at head
                | cons second rest =>
                    obtain rfl := Option.some.inj head
                    exact blockEnds opening rest
                      (ih _ (by simp only [List.length_cons]; omega) _ rest rfl)
              · exact block opening c rest ends (next _)

-----------------------------------------------------------------------------------------
-- Steps
-----------------------------------------------------------------------------------------

theorem stripFrom_plain {c : CodePoint} {rest : Text} (plain : ¬ OpensComment c rest) (line : Nat)
    : stripFrom line .code (c :: rest)
      = (c :: ·) <$> stripFrom (lineAfter line c) (modeBehindCode c) rest := by
  rw [stripFrom]
  · rfl
  · rintro _ rfl rfl
    exact plain ⟨rfl, Or.inl rfl⟩
  · rintro _ rfl rfl
    exact plain ⟨rfl, Or.inr rfl⟩

theorem stripFrom_inside {c : CodePoint} {rest : Text} (plain : ¬ Escapes c rest)
    (quote : CodePoint) (line : Nat)
    : stripFrom line (.literal quote) (c :: rest)
      = (c :: ·) <$> stripFrom (lineAfter line c) (modeBehindLiteral quote c) rest := by
  rw [stripFrom]
  · rfl
  · rintro _ _ rfl rfl
    exact plain ⟨rfl, by simp⟩

theorem stripFrom_block {c : CodePoint} {rest : Text} (goesOn : ¬ EndsComment c rest)
    (opening : OpenComment) (line : Nat)
    : stripFrom line (.blockComment opening) (c :: rest)
      = ([c].filter (· = CodePoint.lineFeed) ++ ·)
          <$> stripFrom (lineAfter line c) (.blockComment opening) rest := by
  by_cases ends : c = CodePoint.lineFeed
  · subst ends
    rfl
  · rw [stripFrom]
    · simp [ends, lineAfter]
    · exact fun same => ends same
    · rintro _ rfl rfl
      exact goesOn ⟨rfl, rfl⟩

/-- Two modes that differ at most in where a comment was opened. -/
inductive SameMode : ScriptMode → ScriptMode → Prop where
  | same (mode : ScriptMode) : SameMode mode mode
  | comment (opening other : OpenComment) :
      SameMode (.blockComment opening) (.blockComment other)

/-- What is left of a text depends neither on the line it begins on nor on where a comment was
opened before, step by step.
-/
theorem stripFrom_line (mode : ScriptMode) (t : Text)
    : ∀ {other : ScriptMode},
        SameMode mode other
          → ∀ line line' : Nat,
              (stripFrom line mode t).toOption = (stripFrom line' other t).toOption := by
  induction mode, t using strip_induction with
  | ended mode =>
      intro other same line line'
      cases same with
      | comment => rfl
      | same => cases mode <;> rfl
  | lineOpens rest ih =>
      intro other same line line'
      cases same
      exact ih (.same _) line line'
  | blockOpens rest ih =>
      intro other same line line'
      cases same
      exact ih _ (.comment _ _) line line'
  | code c rest plain ih =>
      intro other same line line'
      cases same
      rw [stripFrom_plain plain, stripFrom_plain plain, toOption_map, toOption_map,
        ih (.same _) (lineAfter line c) (lineAfter line' c)]
  | escape quote c rest ih =>
      intro other same line line'
      cases same
      rw [stripFrom_escape, stripFrom_escape, toOption_map, toOption_map,
        ih (.same _) (lineAfter line c) (lineAfter line' c)]
  | literal quote c rest plain ih =>
      intro other same line line'
      cases same
      rw [stripFrom_inside plain, stripFrom_inside plain, toOption_map, toOption_map,
        ih (.same _) (lineAfter line c) (lineAfter line' c)]
  | lineEnds rest ih =>
      intro other same line line'
      cases same
      rw [stripFrom, stripFrom, if_pos rfl, if_pos rfl, toOption_map, toOption_map,
        ih (.same _) (line + 1) (line' + 1)]
  | line c rest stays ih =>
      intro other same line line'
      cases same
      rw [stripFrom, stripFrom, if_neg stays, if_neg stays, ih (.same _) line line']
  | blockEnds opening rest ih =>
      intro other same line line'
      cases same <;> exact ih (.same _) line line'
  | block opening c rest goesOn ih =>
      intro other same line line'
      have step (other : OpenComment) :=
        ih (.comment opening other) (lineAfter line c) (lineAfter line' c)
      cases same <;>
        rw [stripFrom_block goesOn, stripFrom_block goesOn, toOption_map, toOption_map, step]

-----------------------------------------------------------------------------------------
-- What is left
-----------------------------------------------------------------------------------------

/-- What is left of a text that begins in a mode when its comments are removed; nothing if one of
them is never closed.
-/
def stripped? (mode : ScriptMode) (t : Text) : Option Text :=
  (stripFrom 1 mode t).toOption

theorem strip_toOption (t : Text) : (strip t).toOption = stripped? .code t := rfl

theorem stripped?_lineOpens (rest : Text)
    : stripped? .code (CodePoint.slash :: CodePoint.slash :: rest) = stripped? .lineComment rest :=
  rfl

/-- An opening in place of any other: where a comment was opened matters to faults alone. -/
def anyOpening : OpenComment :=
  ⟨0, []⟩

theorem stripped?_blockOpens (opening : OpenComment) (rest : Text)
    : stripped? .code (CodePoint.slash :: CodePoint.star :: rest)
      = stripped? (.blockComment opening) rest :=
  stripFrom_line _ rest (.comment _ _) 1 1

theorem stripped?_code {c : CodePoint} {rest : Text} (plain : ¬ OpensComment c rest)
    : stripped? .code (c :: rest) = (stripped? (modeBehindCode c) rest).map (c :: ·) := by
  rw [stripped?, stripFrom_plain plain, toOption_map, stripFrom_line _ rest (.same _) _ 1]
  rfl

theorem stripped?_escape (quote c : CodePoint) (rest : Text)
    : stripped? (.literal quote) (CodePoint.backslash :: c :: rest)
      = (stripped? (.literal quote) rest).map (CodePoint.backslash :: c :: ·) := by
  rw [stripped?, stripFrom_escape, toOption_map, stripFrom_line _ rest (.same _) _ 1]
  rfl

theorem stripped?_literal {c : CodePoint} {rest : Text} (plain : ¬ Escapes c rest)
    (quote : CodePoint)
    : stripped? (.literal quote) (c :: rest)
      = (stripped? (modeBehindLiteral quote c) rest).map (c :: ·) := by
  rw [stripped?, stripFrom_inside plain, toOption_map, stripFrom_line _ rest (.same _) _ 1]
  rfl

theorem stripped?_lineEnds (rest : Text)
    : stripped? .lineComment (CodePoint.lineFeed :: rest)
      = (stripped? .code rest).map (CodePoint.lineFeed :: ·) := by
  rw [stripped?, stripFrom, if_pos rfl, toOption_map, stripFrom_line _ rest (.same _) _ 1]
  rfl

theorem stripped?_line {c : CodePoint} (stays : c ≠ CodePoint.lineFeed) (rest : Text)
    : stripped? .lineComment (c :: rest) = stripped? .lineComment rest := by
  rw [stripped?, stripFrom, if_neg stays]
  rfl

/-- Nothing is left of a line comment that no line feed ends, by list induction. -/
theorem stripped?_lastComment {t : Text} (unended : CodePoint.lineFeed ∉ t)
    : stripped? .lineComment t = some [] := by
  induction t with
  | nil => rfl
  | cons c others ih =>
      rw [List.mem_cons, not_or] at unended
      rw [stripped?_line (Ne.symm unended.1), ih unended.2]

/-- A line comment is dropped up to its line feed. -/
theorem stripped?_lineComment {t : Text} (unended : CodePoint.lineFeed ∉ t) (rest : Text)
    : stripped? .lineComment (t ++ CodePoint.lineFeed :: rest)
      = (stripped? .code rest).map (CodePoint.lineFeed :: ·) := by
  rw [stripped?, stripFrom_lineComment unended, toOption_map, stripFrom_line _ rest (.same _) _ 1]
  rfl

theorem stripped?_blockEnds (opening : OpenComment) (rest : Text)
    : stripped? (.blockComment opening) (CodePoint.star :: CodePoint.slash :: rest)
      = stripped? .code rest :=
  rfl

/-- Of a block comment the line feeds are left. -/
theorem stripped?_block {c : CodePoint} {rest : Text} (goesOn : ¬ EndsComment c rest)
    (opening : OpenComment)
    : stripped? (.blockComment opening) (c :: rest)
      = (stripped? (.blockComment opening) rest).map
          ([c].filter (· = CodePoint.lineFeed) ++ ·) := by
  rw [stripped?, stripFrom_block goesOn, toOption_map, stripFrom_line _ rest (.same _) _ 1]
  rfl

end Recommender.Script
