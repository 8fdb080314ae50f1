import Recommender.Proofs.Script.Places

/-! Line numbers are those of the source. Assignments and faults have the line that their statement
begins on in the text with its comments, and a comment that is never closed is reported with the
line that it opens on.
-/

namespace Recommender.Script

-----------------------------------------------------------------------------------------
-- Open comments
-----------------------------------------------------------------------------------------

/-- A place in a text that begins in a mode, at which a comment opens that is never closed. -/
def OpensForever (mode : ScriptMode) (t : Text) (i : Nat) : Prop :=
  (roles mode t)[i]? = some (CodePoint.slash, .comment true)
  ∧ ∃ rest,
      t.drop i = CodePoint.slash :: CodePoint.star :: rest
      ∧ ¬ [CodePoint.star, CodePoint.slash] <:+: rest

/-- Where a text is left in a comment: in the one that it begins in, or in one that opens at a place
in it.
-/
inductive LeftOpen (line : Nat) (mode : ScriptMode) (t : Text) (opening : OpenComment) : Prop where
  | before :
      mode = .blockComment opening → ¬ [CodePoint.star, CodePoint.slash] <:+: t →
      LeftOpen line mode t opening
  | inside {i : Nat} :
      OpensForever mode t i → opening.line = line + (t.take i).count CodePoint.lineFeed →
      opening.beginning = (t.drop i).take shownOfComment → LeftOpen line mode t opening

theorem lineAfter_eq (line : Nat) (c : CodePoint)
    : lineAfter line c = line + [c].count CodePoint.lineFeed := by
  rw [lineAfter, List.count_singleton]
  by_cases ends : c = CodePoint.lineFeed <;> simp [ends]

theorem eq_error_of_map {ε α β : Type} {f : α → β} {x : Except ε α} {e : ε}
    (failed : f <$> x = .error e)
    : x = .error e := by
  cases x <;> cases failed
  rfl

/-- A comment that opens in a text opens in the text with code points before it. -/
theorem LeftOpen.append {line : Nat} {mode mode' : ScriptMode} {t : Text} {opening : OpenComment}
    (front : Text) (left : LeftOpen (line + front.count CodePoint.lineFeed) mode' t opening)
    (step : (roles mode (front ++ t)).drop front.length = roles mode' t)
    (before : mode' = .blockComment opening →
      ¬ [CodePoint.star, CodePoint.slash] <:+: t → LeftOpen line mode (front ++ t) opening)
    : LeftOpen line mode (front ++ t) opening := by
  cases left with
  | before inComment unclosed => exact before inComment unclosed
  | @inside i opens lines beginning =>
      have rest : (front ++ t).drop (front.length + i) = t.drop i := by
        rw [← List.drop_drop, List.drop_left]
      refine .inside (i := front.length + i) ⟨?_, ?_⟩ ?_ ?_
      · rw [← List.getElem?_drop, step]
        exact opens.1
      · rw [rest]
        exact opens.2
      · rw [lines, List.take_append, List.take_of_length_le (Nat.le_add_right _ _),
          Nat.add_sub_cancel_left, List.count_append, Nat.add_assoc]
      · rw [rest, beginning]

/-- Where code points lead out of comments, only a comment behind them can be left open. -/
theorem LeftOpen.outside {line : Nat} {mode mode' : ScriptMode} {t : Text} {opening : OpenComment}
    (front : Text) (left : LeftOpen (line + front.count CodePoint.lineFeed) mode' t opening)
    (step : (roles mode (front ++ t)).drop front.length = roles mode' t)
    (outside : ∀ other, mode' ≠ .blockComment other)
    : LeftOpen line mode (front ++ t) opening :=
  left.append front step fun inside => absurd inside (outside opening)

theorem modeBehindCode_ne (c : CodePoint) (opening : OpenComment)
    : modeBehindCode c ≠ .blockComment opening := by
  unfold modeBehindCode
  split <;> simp

theorem modeBehindLiteral_ne (quote c : CodePoint) (opening : OpenComment)
    : modeBehindLiteral quote c ≠ .blockComment opening := by
  unfold modeBehindLiteral
  split <;> simp

/-- A comment that is never closed is reported with its line, step by step. -/
theorem leftOpen_of_stripFrom (mode : ScriptMode) (t : Text)
    : ∀ {line : Nat} {opening : OpenComment},
        stripFrom line mode t = .error opening → LeftOpen line mode t opening := by
  induction mode, t using strip_induction with
  | ended mode =>
      intro line opening failed
      cases mode <;> cases failed
      exact .before rfl (by simp)
  | lineOpens rest ih =>
      intro line opening failed
      exact LeftOpen.outside [CodePoint.slash, CodePoint.slash] (ih failed) rfl (by simp)
  | blockOpens rest ih =>
      intro line opening failed
      refine LeftOpen.append [CodePoint.slash, CodePoint.star] (ih _ failed)
        (roles_opening anyOpening _ rest) fun same unclosed => ?_
      cases same
      exact .inside (i := 0) ⟨rfl, rest, rfl, unclosed⟩ rfl rfl
  | code c rest plain ih =>
      intro line opening failed
      rw [stripFrom_plain plain, lineAfter_eq] at failed
      exact LeftOpen.outside [c] (ih (eq_error_of_map failed))
        (congrArg (List.drop 1) (roles_code plain)) (modeBehindCode_ne c)
  | escape quote c rest ih =>
      intro line opening failed
      rw [stripFrom_escape, lineAfter_eq] at failed
      have left : LeftOpen (line + [CodePoint.backslash, c].count CodePoint.lineFeed)
          (.literal quote) rest opening := by
        rw [List.count_cons_of_ne (by decide)]
        exact ih (eq_error_of_map failed)
      exact left.outside [CodePoint.backslash, c] rfl (by simp)
  | literal quote c rest plain ih =>
      intro line opening failed
      rw [stripFrom_inside plain, lineAfter_eq] at failed
      exact LeftOpen.outside [c] (ih (eq_error_of_map failed))
        (congrArg (List.drop 1) (roles_literal plain quote)) (modeBehindLiteral_ne quote c)
  | lineEnds rest ih =>
      intro line opening failed
      rw [stripFrom, if_pos rfl] at failed
      exact LeftOpen.outside [CodePoint.lineFeed] (ih (eq_error_of_map failed)) rfl (by simp)
  | line c rest stays ih =>
      intro line opening failed
      rw [stripFrom, if_neg stays] at failed
      have left : LeftOpen (line + [c].count CodePoint.lineFeed) .lineComment rest opening := by
        rw [List.count_cons_of_ne stays]
        exact ih failed
      exact left.outside [c] (congrArg (List.drop 1) (roles_line stays rest)) (by simp)
  | blockEnds opening rest ih =>
      intro line opening failed
      exact LeftOpen.outside [CodePoint.star, CodePoint.slash] (ih failed) rfl (by simp)
  | block opening c rest goesOn ih =>
      intro line opening failed
      rw [stripFrom_block goesOn, lineAfter_eq] at failed
      refine LeftOpen.append [c] (ih (eq_error_of_map failed))
        (congrArg (List.drop 1) (roles_block goesOn _)) fun same unclosed => .before same ?_
      rw [List.singleton_append, List.infix_cons_iff]
      rintro (ends | later)
      · obtain ⟨behind, form⟩ := ends
        cases form
        exact goesOn ⟨rfl, rfl⟩
      · exact unclosed later

-----------------------------------------------------------------------------------------
-- Readings
-----------------------------------------------------------------------------------------

/-- Statements are read one by one up to the first that fails, by list induction. -/
theorem readStatements_eq (source : Option Text) (root : Text) (numbered : List (Nat × Text))
    : (∀ (k : Nat) (made : Assignment),
        (readStatements source root numbered).assignments[k]? = some made
          → ∃ line statement,
              numbered[k]? = some (line, statement)
              ∧ assignment source root line statement = .ok made)
      ∧ ∀ failure,
          (readStatements source root numbered).failure = some failure
            → ∃ line statement,
                numbered[(readStatements source root numbered).assignments.length]?
                  = some (line, statement)
                ∧ assignment source root line statement = .error failure := by
  induction numbered with
  | nil =>
      constructor
      · intro k made found
        cases found
      · intro failure failed
        cases failed
  | cons first rest ih =>
      obtain ⟨line, statement⟩ := first
      rw [readStatements]
      cases outcome : assignment source root line statement with
      | error failure =>
          constructor
          · intro k made found
            cases found
          · intro other failed
            cases failed
            exact ⟨line, statement, rfl, outcome⟩
      | ok made =>
          refine ⟨fun k other same => ?_, ih.2⟩
          cases k with
          | zero =>
              cases same
              exact ⟨line, statement, rfl, outcome⟩
          | succ k => exact ih.1 k other same

/-- A numbered statement begins at its place, on its line. -/
theorem statementsAt_of_numbered {t : Text} {k line : Nat} {statement : Text}
    (numbered : ((statementsAt t).map fun begun => (lineAt t begun.1, begun.2))[k]?
      = some (line, statement))
    : ∃ i,
        (statementsAt t)[k]? = some (i, statement)
        ∧ t[i]? = statement.head?
        ∧ line = lineAt t i := by
  rw [List.getElem?_map, Option.map_eq_some_iff] at numbered
  obtain ⟨⟨i, same⟩, begins, numbered⟩ := numbered
  cases numbered
  obtain ⟨c, here, head⟩ := getElem?_of_statementsAt (List.mem_of_getElem? begins)
  exact ⟨i, begins, here.trans head.symm, rfl⟩

/-- In a script whose lines end with line feeds alone, or with a carriage return and a line feed,
lines are those of the script with its comments. The assignments have the lines that their
statements begin on. A fault of a statement has the line that the statement begins on, and a comment
that is never closed is reported with the line that it opens on.
-/
theorem read_lines {t : Text} (feeds : FeedsOnly t) (source : Option Text) (root : Path)
    : (∀ (k : Nat) (made : Assignment),
        (read source root.text t).assignments[k]? = some made
          → ∃ (i : Nat) (statement : Text),
              (statementsAt t)[k]? = some (i, statement)
              ∧ t[i]? = statement.head?
              ∧ made.line = lineAt t i
              ∧ pairOf? root.text statement = some (made.path, made.value))
      ∧ (∀ (fault : ScriptFault) (line : Int) (text : Text),
          (read source root.text t).failure = some (failureAt source line fault text)
            → fault ≠ .openComment
            → ∃ (i : Nat) (statement : Text),
                (statementsAt t)[(read source root.text t).assignments.length]?
                  = some (i, statement)
                ∧ t[i]? = statement.head?
                ∧ line = lineAt t i
                ∧ pairOf? root.text statement = none)
      ∧ ∀ (line : Int) (text : Text),
          (read source root.text t).failure = some (failureAt source line .openComment text)
            → ∃ i : Nat,
                OpensForever .code t i
                ∧ line = lineAt t i
                ∧ text = (t.drop i).take shownOfComment := by
  rw [read]
  cases left : strip t with
  | error opening =>
      refine ⟨?_, ?_, ?_⟩
      · intro k made found
        cases found
      · intro fault line text failed closed
        cases failed
        exact absurd rfl closed
      · intro line text failed
        cases failed
        cases leftOpen_of_stripFrom .code t left with
        | before inComment => cases inComment
        | @inside i opens lines beginning =>
            obtain ⟨rest, form, -⟩ := opens.2
            have here : t[i]? = some CodePoint.slash := by
              rw [← Nat.add_zero i, ← List.getElem?_drop, form]
              rfl
            refine ⟨i, opens, ?_, beginning⟩
            rw [lines, lineAt_eq feeds here (by decide)]
  | ok u =>
      dsimp only
      rw [numberedStatements_strip feeds left]
      obtain ⟨accepted, refused⟩ := readStatements_eq source root.text
        ((statementsAt t).map fun begun => (lineAt t begun.1, begun.2))
      refine ⟨?_, ?_, ?_⟩
      · intro k made isMade
        obtain ⟨line, statement, numbered, outcome⟩ := accepted k made isMade
        obtain ⟨i, begins, here, rfl⟩ := statementsAt_of_numbered numbered
        refine ⟨i, statement, begins, here, line_of_assignment outcome, ?_⟩
        rw [← assignment_pairOf? source root.text (lineAt t i) statement, outcome]
        rfl
      · intro fault line text failed closed
        obtain ⟨line', statement, numbered, outcome⟩ := refused _ failed
        obtain ⟨i, begins, here, rfl⟩ := statementsAt_of_numbered numbered
        refine ⟨i, statement, begins, here, ?_, ?_⟩
        · cases assignment_failure outcome with
          | fault => rfl
        · rw [← assignment_pairOf? source root.text (lineAt t i) statement, outcome]
          rfl
      · intro line text failed
        obtain ⟨line', statement, numbered, outcome⟩ := refused _ failed
        cases assignment_failure outcome with
        | fault closed => exact absurd rfl closed

/-- A comment of two lines and a literal of two lines, which holds the mark of a comment, are
counted. The statement of the literal is refused with its first line, and a comment that opens
behind it is never closed.
-/
theorem read_lines_escaped
    : let root : Path := ⟨"rec", by decide⟩
      let refused : Text := "/* a\r\n// b */ rec.c = 1; // d\n rec.e = 'f\\\n/* g\n"
      let unclosed : Text := refused ++ " /* h"
      FeedsOnly refused
      ∧ (∃ i statement,
          (statementsAt refused)[1]? = some (i, statement)
          ∧ refused[i]? = statement.head?
          ∧ (3 : Int) = lineAt refused i
          ∧ pairOf? root.text statement = none)
      ∧ FeedsOnly unclosed
      ∧ ∃ i,
          OpensForever .code unclosed i
          ∧ (5 : Int) = lineAt unclosed i
          ∧ "/* h" = (unclosed.drop i).take shownOfComment := by
  intro root refused unclosed
  have feeds : FeedsOnly refused := by decide
  have feedsBehind : FeedsOnly unclosed := by decide
  have fault : (read none root.text refused).failure
      = some (failureAt none 3 .invalidValue "'f\\") := by rfl
  have made : (read none root.text refused).assignments.length = 1 := by decide
  have opened : (read none root.text unclosed).failure
      = some (failureAt none 5 .openComment "/* h") := by rfl
  have begins := (read_lines feeds none root).2.1 _ _ _ fault (by decide)
  have opens := (read_lines feedsBehind none root).2.2 _ _ opened
  rw [made] at begins
  exact ⟨feeds, begins, feedsBehind, opens⟩

end Recommender.Script
