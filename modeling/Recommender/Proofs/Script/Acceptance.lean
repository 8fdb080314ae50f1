import Mathlib.Data.List.TakeDrop
import Mathlib.Data.List.TakeWhile
import Recommender.Proofs.Script.Forms
import Recommender.Proofs.Script.Outcome

/-! What an accepted statement looks like. Its value is a literal or made of bare code points, so an
accepted line leaves no literal open and does not end with a backslash.
-/

namespace Recommender

namespace Script

theorem isQuote_of_isBlank {c : CodePoint} (blank : c.isBlank = true) : isQuote c = false := by
  cases quote : isQuote c with
  | false => rfl
  | true =>
      simp only [isQuote, Bool.or_eq_true, decide_eq_true_eq] at quote
      rcases quote with rfl | rfl <;> revert blank <;> decide

/-- A value is a literal or made of bare code points. -/
theorem trimmedValue_forms {t : Text} {v : Value} (read : trimmedValue t = .ok v)
    : (t ≠ [] ∧ Text.Bare t)
      ∨ ∃ quote body,
          isQuote quote = true
          ∧ t = quote :: (body ++ [quote])
          ∧ (Text.OnOneLine t → LiteralBody quote body) := by
  have nonempty : t ≠ [] := by
    rintro rfl
    cases read
  cases writesValue_of_trimmedValue read with
  | @literal quote body denoted opens enclosed denotes =>
      refine .inr ⟨quote, body, opens, rfl, fun single => enclosed.literalBody fun c member => ?_⟩
      exact single c (by simp [member])
  | integer isSign _ isDigits =>
      exact .inl ⟨nonempty, (bare_of_signs isSign).append (bare_of_digits isDigits)⟩
  | decimal isSign wholeDigits fractionDigits _ _ isPower _ =>
      exact .inl ⟨nonempty, bare_of_parts isSign wholeDigits fractionDigits isPower⟩
  | true => exact .inl ⟨nonempty, bare_of_all (by decide)⟩
  | false => exact .inl ⟨nonempty, bare_of_all (by decide)⟩
  | @reference r _ _ => exact .inl ⟨nonempty, Text.bare_of_isComponentName r.valid⟩

/-- A value on one line is inert, whatever form it has. -/
theorem inert_of_trimmedValue {t : Text} {v : Value} (read : trimmedValue t = .ok v)
    (single : Text.OnOneLine t)
    : Inert t := by
  rcases trimmedValue_forms read with ⟨_, bare⟩ | ⟨quote, body, opens, rfl, literal⟩
  · exact inert_of_bare bare
  · exact .literal opens (literal single) .nil

/-- A value begins and ends with code points that are not blank. -/
theorem trimmed_of_trimmedValue {t : Text} {v : Value} (read : trimmedValue t = .ok v)
    : Text.Trimmed t := by
  rcases trimmedValue_forms read with ⟨_, bare⟩ | ⟨quote, body, opens, rfl, _⟩
  · exact bare.trimmed
  · have visible : quote.isBlank = false := by
      cases blank : quote.isBlank with
      | false => rfl
      | true =>
          rw [isQuote_of_isBlank blank] at opens
          cases opens
    constructor
    · simpa using visible
    · rw [← List.cons_append, List.getLast?_concat]
      simpa using visible

/-- No value ends with a backslash. -/
theorem getLast?_of_trimmedValue {t : Text} {v : Value} (read : trimmedValue t = .ok v)
    : ∃ last, t.getLast? = some last ∧ last ≠ CodePoint.backslash := by
  rcases trimmedValue_forms read with ⟨nonempty, bare⟩ | ⟨quote, body, opens, rfl, _⟩
  · exact ⟨_, List.getLast?_eq_some_getLast nonempty,
      CodePoint.ne_of_isBare (bare _ (List.getLast_mem nonempty)) (by decide)⟩
  · refine ⟨quote, ?_, (backslash_of_isQuote opens).1⟩
    rw [← List.cons_append, List.getLast?_concat]

-----------------------------------------------------------------------------------------
-- Statements
-----------------------------------------------------------------------------------------

/-- The sides of a statement are parted by its first equals sign. -/
theorem sides?_eq_some {statement target right : Text}
    : sides? statement = some (target, right)
      ↔ statement = target ++ CodePoint.equals :: right
        ∧ target ≠ []
        ∧ ∀ c ∈ target, c ≠ CodePoint.equals := by
  constructor
  · intro cut
    unfold sides? at cut
    have whole := List.takeWhile_append_dropWhile (p := (· ≠ CodePoint.equals)) (l := statement)
    rw [List.span_eq_takeWhile_dropWhile] at cut
    split at cut
    · cases cut
    · cases cut
    · next first rest mark value some same =>
        simp only [Prod.mk.injEq] at same
        obtain ⟨front, back⟩ := same
        cases cut
        have stops := List.head?_dropWhile_not (· ≠ CodePoint.equals) statement
        rw [back] at stops
        simp at stops
        refine ⟨?_, some, fun c member => ?_⟩
        · rw [front, back] at whole
          rw [← whole, stops]
        · rw [← front] at member
          simpa using List.mem_takeWhile_imp member
  · rintro ⟨rfl, nonempty, before⟩
    exact sides?_append nonempty before right

/-- A statement that is accepted assigns a value at a path below the root, blanks aside. -/
theorem pairOf?_sound {root statement : Text} {pair : Path × Value}
    (accepted : pairOf? root statement = some pair)
    : ∃ target right : Text,
        statement = target ++ CodePoint.equals :: right
        ∧ target.trim = root ++ "." ++ pair.1.text
        ∧ trimmedValue right.trim = .ok pair.2 := by
  simp only [pairOf?, Option.bind_eq_bind, Option.bind_eq_some_iff] at accepted
  obtain ⟨⟨target, right⟩, cut, below, lead, path, isPath, v, read, same⟩ := accepted
  cases same
  unfold Path.ofText? at isPath
  split at isPath
  · cases isPath
    refine ⟨target, right, (sides?_eq_some.mp cut).1, Text.eq_append_of_dropLead? lead, ?_⟩
    unfold value at read
    cases form : trimmedValue right.trim with
    | error fault => simp [form, Except.toOption] at read
    | ok v' =>
        rw [form] at read
        cases read
        rfl
  · cases isPath

-----------------------------------------------------------------------------------------
-- Open literals
-----------------------------------------------------------------------------------------

/-- The literal that is open behind a text. -/
def literalBehind (opened : Option LineLiteral) (t : Text) : Option LineLiteral :=
  t.foldl (fun opened c => literalAfter c opened) opened

theorem literalBehind_cons (opened : Option LineLiteral) (c : CodePoint) (rest : Text)
    : literalBehind opened (c :: rest) = literalBehind (literalAfter c opened) rest :=
  rfl

theorem literalBehind_append (opened : Option LineLiteral) (front back : Text)
    : literalBehind opened (front ++ back) = literalBehind (literalBehind opened front) back :=
  List.foldl_append

/-- No literal opens in a text without quotes, by list induction. -/
theorem literalBehind_unquoted {t : Text} (unquoted : ∀ c ∈ t, isQuote c = false)
    : literalBehind none t = none := by
  induction t with
  | nil => rfl
  | cons c rest ih =>
      rw [literalBehind_cons, literalAfter, unquoted c List.mem_cons_self]
      exact ih fun c member => unquoted c (List.mem_cons_of_mem _ member)

/-- A literal is closed by the quote behind its body, by induction on the body. -/
theorem literalBehind_literal {quote : CodePoint} {body : Text} (literal : LiteralBody quote body)
    (unescaped : quote ≠ CodePoint.backslash) (rest : Text)
    : literalBehind (some ⟨quote, false⟩) (body ++ quote :: rest) = literalBehind none rest := by
  induction literal with
  | nil => simp [literalBehind_cons, literalAfter, unescaped]
  | plain other plain _ _ ih => simp [literalBehind_cons, literalAfter, other, plain, ih]
  | escape _ _ ih => simp [literalBehind_cons, literalAfter, ih]

/-- No literal is open behind an inert text, by induction on its shape. -/
theorem literalBehind_inert {t : Text} (inert : Inert t) : literalBehind none t = none := by
  induction inert with
  | nil => rfl
  | plain unquoted _ _ _ _ ih => simp [literalBehind_cons, literalAfter, unquoted, ih]
  | literal opens body _ ih =>
      obtain ⟨unescaped, _, _⟩ := backslash_of_isQuote opens
      simp [literalBehind_cons, literalAfter, opens, literalBehind_literal body unescaped, ih]

/-- No literal is open behind a statement that is accepted, if the root has no quote in its name. -/
theorem literalBehind_of_pairOf? {root statement : Text} {pair : Path × Value}
    (quoteless : ∀ c ∈ root, isQuote c = false) (accepted : pairOf? root statement = some pair)
    (single : Text.OnOneLine statement)
    : literalBehind none statement = none := by
  obtain ⟨target, right, rfl, left, read⟩ := pairOf?_sound accepted
  obtain ⟨before, after, form, blankBefore, blankAfter⟩ := Text.trim_cut target
  obtain ⟨before', after', form', blankBefore', blankAfter'⟩ := Text.trim_cut right
  have front : literalBehind none (target ++ [CodePoint.equals]) = none := by
    have point : Text.Bare ("." : Text) := bare_of_all (by decide)
    have equals : isQuote CodePoint.equals = false := by decide
    refine literalBehind_unquoted fun c member => ?_
    rw [form, left] at member
    simp only [List.mem_append, List.mem_singleton] at member
    rcases member with ((blank | ((inside | dot) | below)) | blank) | rfl
    · exact isQuote_of_isBlank (blankBefore c blank)
    · exact quoteless c inside
    · exact isQuote_of_isBare (point c dot)
    · exact isQuote_of_isBare (Text.bare_of_isPath pair.1.valid c below)
    · exact isQuote_of_isBlank (blankAfter c blank)
    · exact equals
  have inert : Inert right.trim := by
    refine inert_of_trimmedValue read fun c member => single c ?_
    rw [form']
    simp [member]
  rw [← List.singleton_append, ← List.append_assoc, literalBehind_append, front, form',
    List.append_assoc, literalBehind_append,
    literalBehind_unquoted fun c member => isQuote_of_isBlank (blankBefore' c member),
    literalBehind_append, literalBehind_inert inert]
  exact literalBehind_unquoted fun c member => isQuote_of_isBlank (blankAfter' c member)

theorem pieces_ne_nil (opened : Option LineLiteral) (line : Text) : pieces opened line ≠ [] := by
  cases line with
  | nil => simp [pieces]
  | cons c rest =>
      rw [pieces]
      split
      · simp
      · cases pieces (literalAfter c opened) rest <;> simp [Text.addToFirst]

/-- Pieces of a line are made of code points of the line, by list induction. -/
theorem mem_of_mem_pieces {line : Text} {opened : Option LineLiteral} {piece : Text}
    (member : piece ∈ pieces opened line)
    : ∀ c ∈ piece, c ∈ line := by
  induction line generalizing opened piece with
  | nil =>
      rw [pieces, List.mem_singleton] at member
      simp [member]
  | cons first rest ih =>
      rw [pieces] at member
      split at member
      · rcases List.mem_cons.mp member with rfl | later
        · simp
        · exact fun c inside => List.mem_cons_of_mem _ (ih later c inside)
      · obtain ⟨second, others, cut⟩ :=
          List.exists_cons_of_ne_nil (pieces_ne_nil (literalAfter first opened) rest)
        rw [cut, Text.addToFirst] at member
        intro c inside
        rcases List.mem_cons.mp member with rfl | later
        · rcases List.mem_cons.mp inside with rfl | deeper
          · exact List.mem_cons_self
          · exact List.mem_cons_of_mem _ (ih (cut ▸ List.mem_cons_self) c deeper)
        · exact List.mem_cons_of_mem _ (ih (cut ▸ List.mem_cons_of_mem _ later) c inside)

/-- A literal that is open behind a line is open behind one of its pieces, by list induction. -/
theorem literalBehind_pieces {line : Text} {opened : Option LineLiteral} {first : Text}
    {others : List Text} (cut : pieces opened line = first :: others)
    (closedFirst : literalBehind opened first = none)
    (closed : ∀ piece ∈ others, literalBehind none piece = none)
    : literalBehind opened line = none := by
  induction line generalizing opened first others with
  | nil =>
      cases cut
      exact closedFirst
  | cons c rest ih =>
      rw [pieces] at cut
      split at cut
      · next divides =>
          simp only [Bool.and_eq_true, Option.isNone_iff_eq_none, decide_eq_true_eq] at divides
          obtain ⟨rfl, rfl⟩ := divides
          obtain ⟨rfl, rfl⟩ := List.cons.inj cut
          obtain ⟨second, later, next⟩ := List.exists_cons_of_ne_nil (pieces_ne_nil none rest)
          rw [next] at closed
          exact ih next (closed second List.mem_cons_self)
            fun piece member => closed piece (List.mem_cons_of_mem _ member)
      · obtain ⟨second, later, next⟩ :=
          List.exists_cons_of_ne_nil (pieces_ne_nil (literalAfter c opened) rest)
        rw [next, Text.addToFirst] at cut
        obtain ⟨rfl, rfl⟩ := List.cons.inj cut
        exact ih next closedFirst closed

/-- No literal is open behind a line whose statements are accepted, if the root has no quote in its
name.
-/
theorem literalBehind_of_statements {root line : Text} (quoteless : ∀ c ∈ root, isQuote c = false)
    (single : Text.OnOneLine line)
    (accepted : ∀ statement ∈ statements line, (pairOf? root statement).isSome = true)
    : literalBehind none line = none := by
  have closed : ∀ piece ∈ pieces none line, literalBehind none piece = none := by
    intro piece member
    obtain ⟨before, after, form, blankBefore, blankAfter⟩ := Text.trim_cut piece
    have inner : literalBehind none piece.trim = none := by
      by_cases empty : piece.trim = []
      · rw [empty]
        rfl
      · have statement : piece.trim ∈ statements line :=
          List.mem_filter.mpr ⟨List.mem_map.mpr ⟨piece, member, rfl⟩, by simpa using empty⟩
        obtain ⟨pair, made⟩ := Option.isSome_iff_exists.mp (accepted _ statement)
        refine literalBehind_of_pairOf? quoteless made fun c inside => ?_
        refine single c (mem_of_mem_pieces member c ?_)
        rw [form]
        simp [inside]
    rw [form, List.append_assoc, literalBehind_append,
      literalBehind_unquoted fun c member => isQuote_of_isBlank (blankBefore c member),
      literalBehind_append, inner]
    exact literalBehind_unquoted fun c member => isQuote_of_isBlank (blankAfter c member)
  obtain ⟨first, others, cut⟩ := List.exists_cons_of_ne_nil (pieces_ne_nil none line)
  rw [cut] at closed
  exact literalBehind_pieces cut (closed first List.mem_cons_self)
    fun piece member => closed piece (List.mem_cons_of_mem _ member)

-----------------------------------------------------------------------------------------
-- Lines that end with a backslash
-----------------------------------------------------------------------------------------

/-- The last piece of a line takes a code point at its end that is no semicolon, by list
induction.
-/
theorem pieces_concat {c : CodePoint} (noSemicolon : c ≠ CodePoint.semicolon)
    (opened : Option LineLiteral) (line : Text)
    : ∃ piece ∈ pieces opened (line ++ [c]), piece.getLast? = some c := by
  induction line generalizing opened with
  | nil => exact ⟨[c], by simp [pieces, noSemicolon, Text.addToFirst], rfl⟩
  | cons first rest ih =>
      rw [List.cons_append, pieces]
      split
      · obtain ⟨piece, member, last⟩ := ih none
        exact ⟨piece, List.mem_cons_of_mem _ member, last⟩
      · obtain ⟨piece, member, last⟩ := ih (literalAfter first opened)
        obtain ⟨second, others, cut⟩ :=
          List.exists_cons_of_ne_nil (pieces_ne_nil (literalAfter first opened) (rest ++ [c]))
        rw [cut] at member ⊢
        rcases List.mem_cons.mp member with rfl | later
        · exact ⟨first :: piece, List.mem_cons_self, by simp [List.getLast?_cons, last]⟩
        · exact ⟨piece, List.mem_cons_of_mem _ later, last⟩

/-- No statement that is accepted ends with a backslash. -/
theorem getLast?_of_pairOf? {root statement : Text} {pair : Path × Value}
    (accepted : pairOf? root statement = some pair)
    : statement.getLast? ≠ some CodePoint.backslash := by
  intro last
  obtain ⟨target, right, rfl, _, read⟩ := pairOf?_sound accepted
  obtain ⟨valueLast, isLast, other⟩ := getLast?_of_trimmedValue read
  have ends : right.getLast? = some CodePoint.backslash := by
    cases right with
    | nil =>
        rw [List.getLast?_append] at last
        exact absurd (Option.some.inj last) (by decide)
    | cons c rest => simpa [List.getLast?_append, List.getLast?_cons] using last
  rw [Text.getLast?_trim ends (by decide)] at isLast
  exact other (Option.some.inj isLast).symm

/-- A line that ends with a backslash is not accepted. -/
theorem rejected_of_backslash (root line : Text)
    : ∃ statement ∈ statements (line ++ [CodePoint.backslash]), pairOf? root statement = none := by
  obtain ⟨piece, member, last⟩ := pieces_concat (c := CodePoint.backslash) (by decide) none line
  have trimmed := Text.getLast?_trim last (by decide)
  have nonempty : piece.trim ≠ [] := by
    intro empty
    rw [empty] at trimmed
    cases trimmed
  refine ⟨piece.trim, List.mem_filter.mpr ⟨List.mem_map.mpr ⟨piece, member, rfl⟩, ?_⟩, ?_⟩
  · simpa using nonempty
  · cases made : pairOf? root piece.trim with
    | none => rfl
    | some pair => exact absurd trimmed (getLast?_of_pairOf? made)

end Script
end Recommender
