import Recommender.Proofs.Script.Outcome
import Recommender.Proofs.Script.Values
import Recommender.Script.Printer
import Recommender.Script.Reading

/-! Scripts written from records and read back. The header disappears with the comments, each line
of an assignment is one statement, and each statement makes the assignment that it was written for.
-/

namespace Recommender.Script

-----------------------------------------------------------------------------------------
-- Lines of a written script
-----------------------------------------------------------------------------------------

/-- A line of a header is a comment line, whatever stands on it. -/
theorem headerLine_form {line : Text} (single : Text.OnOneLine line)
    : ∃ t, headerLine line = CodePoint.slash :: CodePoint.slash :: t ∧ Text.OnOneLine t := by
  have slash : CodePoint.slash.isBlank = false := by decide
  have form : ("// " ++ line : Text)
      = [CodePoint.slash, CodePoint.slash] ++ CodePoint.space :: line := rfl
  refine ⟨Text.trimEnd (CodePoint.space :: line), ?_, ?_⟩
  · rw [headerLine, form, Text.trimEnd_append (by simp [slash])]
    rfl
  · intro c member
    have kept : c ∈ CodePoint.space :: line := by
      rw [Text.trimEnd, List.mem_reverse] at member
      exact List.mem_reverse.mp ((List.dropWhile_sublist _).mem member)
    rcases List.mem_cons.mp kept with rfl | inside
    · decide
    · exact single c inside

theorem stripsTo_headerLine {line : Text} (single : Text.OnOneLine line)
    : StripsTo (headerLine line) [] := by
  obtain ⟨t, form, rest⟩ := headerLine_form single
  rw [form]
  exact stripsTo_comment rest

/-- The target of an assignment below a root. -/
def target (root path : Path) : Text :=
  root.text ++ "." ++ path.text

theorem bare_target (root path : Path) : Text.Bare (target root path) :=
  ((Text.bare_of_isPath root.valid).append (bare_of_all (by decide))).append
    (Text.bare_of_isPath path.valid)

theorem assignmentLine_eq (root : Path) (entry : Path × Value)
    : assignmentLine root.text entry
      = target root entry.1 ++ CodePoint.space :: CodePoint.equals :: CodePoint.space
          :: entry.2.scriptText := by
  have equals : (" = " : Text) = [CodePoint.space, CodePoint.equals, CodePoint.space] := rfl
  simp [assignmentLine, target, equals]

theorem target_ne_nil (root path : Path) : target root path ≠ [] := by
  have point : ("." : Text) = [CodePoint.dot] := rfl
  simp [target, point]

theorem inert_assignmentLine (root : Path) (entry : Path × Value)
    : Inert (assignmentLine root.text entry) := by
  rw [assignmentLine_eq]
  refine (inert_of_bare (bare_target root entry.1)).append ?_
  refine .plain (by decide) (by decide) (by decide) (by decide) ?_
  refine .plain (by decide) (by decide) (by decide) (by decide) ?_
  exact .plain (by decide) (by decide) (by decide) (by decide) (inert_scriptText entry.2)

/-- The line of an assignment begins with its target and ends with its value. -/
theorem trimmed_assignmentLine (root : Path) (entry : Path × Value)
    : Text.Trimmed (assignmentLine root.text entry) := by
  have trimmed := (bare_target root entry.1).trimmed.append (trimmed_scriptText entry.2)
    (target_ne_nil root entry.1) (scriptText_ne_nil entry.2)
    [CodePoint.space, CodePoint.equals, CodePoint.space]
  simpa [assignmentLine_eq] using trimmed

/-- The line of an assignment is one statement. -/
theorem statements_assignmentLine (root : Path) (entry : Path × Value)
    : statements (assignmentLine root.text entry) = [assignmentLine root.text entry] := by
  refine statements_inert (inert_assignmentLine root entry) (trimmed_assignmentLine root entry) ?_
  rw [assignmentLine_eq]
  simp

-----------------------------------------------------------------------------------------
-- One assignment
-----------------------------------------------------------------------------------------

/-- The first equals sign of an assignment parts its target from its value. -/
theorem sides?_assignmentLine (root : Path) (entry : Path × Value)
    : sides? (assignmentLine root.text entry)
      = some (target root entry.1 ++ [CodePoint.space], CodePoint.space :: entry.2.scriptText) := by
  have before : ∀ c ∈ target root entry.1 ++ [CodePoint.space], c ≠ CodePoint.equals := by
    rintro c member rfl
    rcases List.mem_append.mp member with inside | last
    · exact CodePoint.ne_of_isBare (bare_target root entry.1 _ inside) (by decide) rfl
    · revert last
      decide
  have form : assignmentLine root.text entry
      = (target root entry.1 ++ [CodePoint.space])
        ++ CodePoint.equals :: CodePoint.space :: entry.2.scriptText := by
    simp [assignmentLine_eq]
  rw [form, sides?_append (by simp) before]

/-- The blank behind a target does not matter. -/
theorem trim_target (root path : Path)
    : Text.trim (target root path ++ [CodePoint.space]) = target root path := by
  have blank : CodePoint.space.isBlank = true := by decide
  exact (bare_target root path).trimmed.trim_blanks (target_ne_nil root path) [] _ (by simp)
    (by simp [blank])

theorem dropLead?_target (root path : Path)
    : Text.dropLead? (root.text ++ ".") (target root path) = some path.text :=
  Text.dropLead?_append _ _

/-- A written assignment is read, with the value as it is read back. -/
theorem assignment_assignmentLine (source : Option Text) (root : Path) (line : Nat)
    {entry : Path × Value} (short : entry.2.Short)
    : assignment source root.text line (assignmentLine root.text entry)
      = .ok ⟨line, entry.1, entry.2.reread⟩ := by
  rw [assignment, sides?_assignmentLine]
  simp only [trim_target, dropLead?_target, Path.ofText?_text, value_scriptText short]

-----------------------------------------------------------------------------------------
-- All assignments
-----------------------------------------------------------------------------------------

/-- The statements of lines from a number on. -/
def statementsFrom (number : Nat) (lines : List Text) : List (Nat × Text) :=
  (lines.zipIdx number).flatMap fun (line, number) => (statements line).map (number, ·)

theorem statementsFrom_cons (number : Nat) (line : Text) (rest : List Text)
    : statementsFrom number (line :: rest)
      = (statements line).map (number, ·) ++ statementsFrom (number + 1) rest := by
  simp [statementsFrom]

/-- Empty lines only move the numbers of the statements behind them, by list induction. -/
theorem statementsFrom_empty (number : Nat) (empties : List Text) (empty : ∀ t ∈ empties, t = [])
    (lines : List Text)
    : statementsFrom number (empties ++ lines)
      = statementsFrom (number + empties.length) lines := by
  induction empties generalizing number with
  | nil => rfl
  | cons first rest ih =>
      rw [List.cons_append, statementsFrom_cons, empty first List.mem_cons_self,
        ih (number + 1) (fun t member => empty t (List.mem_cons_of_mem _ member)),
        List.length_cons, Nat.add_assoc, Nat.add_comm 1]
      rfl

/-- The lines of all assignments are read in order, by list induction. -/
theorem readStatements_assignmentLines (source : Option Text) (root : Path) (number : Nat)
    {entries : List (Path × Value)} (short : ∀ entry ∈ entries, entry.2.Short)
    : ∃ made,
        readStatements source root.text
            (statementsFrom number (entries.map (assignmentLine root.text)))
          = ⟨made, none⟩
        ∧ made.map (fun a => (a.path, a.value))
          = entries.map fun entry => (entry.1, entry.2.reread) := by
  induction entries generalizing number with
  | nil => exact ⟨[], rfl, rfl⟩
  | cons entry rest ih =>
      obtain ⟨made, read, same⟩ :=
        ih (number + 1) (fun e member => short e (List.mem_cons_of_mem _ member))
      refine ⟨⟨number, entry.1, entry.2.reread⟩ :: made, ?_, by simp [same]⟩
      rw [List.map_cons, statementsFrom_cons, statements_assignmentLine, List.map_singleton,
        List.singleton_append, readStatements,
        assignment_assignmentLine source root number (short entry List.mem_cons_self)]
      simp only [read]

/-- A written record has lines for the header and for the assignments, or one empty line. -/
theorem render_eq_ended (r : Record) (root : Path) (header : Text)
    : ∃ lines : List (Text × Text),
        render r root.text header = Text.ended (lines.map Prod.fst)
        ∧ (∀ line ∈ lines, StripsTo line.1 line.2)
        ∧ ∃ empties,
            lines.map Prod.snd = empties ++ r.values.entries.map (assignmentLine root.text)
            ∧ ∀ t ∈ empties, t = [] := by
  by_cases none : header.lines = [] ∧ r.values.entries = []
  · refine ⟨[([], [])], ?_, ?_, [[]], by simp [none.2], by simp⟩
    · simp [render, none]
      rfl
    · simpa using stripsTo_of_inert .nil
  · refine ⟨header.lines.map (headerLine ·, [])
        ++ r.values.entries.map (fun entry =>
          (assignmentLine root.text entry, assignmentLine root.text entry)),
      ?_, ?_, header.lines.map fun _ => [], by simp [Function.comp_def], by simp⟩
    · have some : header.lines.map headerLine ++ r.values.entries.map (assignmentLine root.text)
          ≠ [] := by
        intro empty
        rw [List.append_eq_nil_iff, List.map_eq_nil_iff, List.map_eq_nil_iff] at empty
        exact none empty
      rw [render, Text.join_append_lineFeed some]
      simp [Function.comp_def]
    · intro line member
      rcases List.mem_append.mp member with comment | made
      · obtain ⟨text, inside, rfl⟩ := List.mem_map.mp comment
        exact stripsTo_headerLine (Text.onOneLine_of_mem_lines inside)
      · obtain ⟨entry, _, rfl⟩ := List.mem_map.mp made
        exact stripsTo_of_inert (inert_assignmentLine root entry)

/-- A written record is read without a fault, assignment by assignment. -/
theorem read_render (source : Option Text) {r : Record} (root : Path) (header : Text)
    (short : ∀ entry ∈ r.values.entries, entry.2.Short)
    : ∃ made,
        read source root.text (render r root.text header) = ⟨made, none⟩
        ∧ made.map (fun a => (a.path, a.value)) = (r.values.mapValues Value.reread).entries := by
  obtain ⟨lines, form, strips, empties, left, empty⟩ := render_eq_ended r root header
  have single : ∀ t ∈ lines.map Prod.snd, Text.OnOneLine t := by
    rw [left]
    intro t member
    rcases List.mem_append.mp member with comment | made
    · simp [empty t comment, Text.OnOneLine]
    · obtain ⟨entry, _, rfl⟩ := List.mem_map.mp made
      exact (inert_assignmentLine root entry).onOneLine
  obtain ⟨made, statements, same⟩ :=
    readStatements_assignmentLines source root (1 + empties.length) short
  refine ⟨made, ?_, same⟩
  have numbered : numberedStatements (Text.ended (lines.map Prod.snd))
      = statementsFrom (1 + empties.length) (r.values.entries.map (assignmentLine root.text)) := by
    rw [← statementsFrom_empty 1 empties empty, ← left]
    rw [numberedStatements, Text.lines_ended single]
    rfl
  rw [read, form, strip_ended strips]
  simp only [numbered, statements]

-----------------------------------------------------------------------------------------
-- Records
-----------------------------------------------------------------------------------------

/-- The record that is read where a record was written. -/
def rereadRecord (r : Record) : Record :=
  ⟨r.values.mapValues Value.reread, (r.values.mapValues Value.reread).entries, false⟩

/-- A written record is read as a whole. -/
theorem toRecord_render (source : Option Text) {r : Record} (root : Path) (header : Text)
    (short : ∀ entry ∈ r.values.entries, entry.2.Short)
    : toRecord source root.text (render r root.text header) = .ok (rereadRecord r) := by
  obtain ⟨made, reading, same⟩ := read_render source root header short
  have entries := Table.entries_ofList (r.values.mapValues Value.reread).distinct
  rw [toRecord, applyTo, reading]
  dsimp only
  rw [same, Record.assignAll_empty, Record.ofList_eq]
  simp [Attempt.toExcept, rereadRecord, Table.eq_of_entries entries]

/-- A record that was read back is written as it was. -/
theorem render_rereadRecord (r : Record) (root header : Text)
    : render (rereadRecord r) root header = render r root header := by
  have same (entry : Path × Value)
      : assignmentLine root (entry.1, entry.2.reread) = assignmentLine root entry := by
    simp [assignmentLine, Value.scriptText_reread]
  simp [render, rereadRecord, Table.mapValues, same, Function.comp_def]

/-- The values of a record are read back exactly when all of them are legible. -/
theorem rereadRecord_values {r : Record}
    : (rereadRecord r).values = r.values ↔ ∀ entry ∈ r.values.entries, entry.2.Legible := by
  constructor
  · intro same entry member
    have entries : r.values.entries.map (fun entry => (entry.1, entry.2.reread))
        = r.values.entries :=
      congrArg Table.entries same
    have kept := List.map_inj_left.mp (entries.trans (List.map_id _).symm) entry member
    exact Value.reread_eq_self.mp (congrArg Prod.snd kept)
  · intro legible
    apply Table.eq_of_entries
    have kept : ∀ entry ∈ r.values.entries, (entry.1, entry.2.reread) = entry :=
      fun entry member => by rw [Value.reread_eq_self.mpr (legible entry member)]
    exact (List.map_congr_left kept).trans (List.map_id _)

theorem paths_rereadRecord (r : Record) : (rereadRecord r).paths = r.paths := by
  simp [Record.paths, Table.keys, rereadRecord, Table.mapValues, Function.comp_def]

/-- A record is written and read back without a fault, below any root and any header. Its paths and
their order stay; its values stay exactly when all of them are legible.
-/
theorem toRecord_render_iff_legible (source : Option Text) (r : Record) (root : Path)
    (header : Text) (short : ∀ entry ∈ r.values.entries, entry.2.Short)
    : ∃ s,
        toRecord source root.text (render r root.text header) = .ok s
        ∧ s.values = r.values.mapValues Value.reread
        ∧ s.paths = r.paths
        ∧ (s.values = r.values ↔ ∀ entry ∈ r.values.entries, entry.2.Legible) :=
  ⟨rereadRecord r, toRecord_render source root header short, rfl, paths_rereadRecord r,
    rereadRecord_values⟩

/-- A text with a quote and a negative integer are read back below a header that opens a comment. -/
theorem toRecord_render_quote_and_integer
    : ∃ s,
        toRecord none defaultRoot
            (render (Record.ofList [(Path.name, .text "it's"), (Path.module, .int (-7))])
              defaultRoot "/* seven")
          = .ok s
        ∧ s.values.entries = [(Path.name, .text "it's"), (Path.module, .int (-7))] := by
  have digits : (Text.ofNat 7).length ≤ maxIntegerDigits := by decide
  have basic : (Text.ofString "it's").all (·.val < 0x10000) = true := by decide
  have short : ∀ entry ∈ [(Path.name, Value.text "it's"), (Path.module, .int (-7))],
      entry.2.Short := by
    simpa [Value.Short] using digits
  have legible : ∀ entry ∈ [(Path.name, Value.text "it's"), (Path.module, .int (-7))],
      entry.2.Legible := by
    simpa [Value.Legible] using basic
  obtain ⟨s, read, _, _, same⟩ := toRecord_render_iff_legible none
    (Record.ofList [(Path.name, .text "it's"), (Path.module, .int (-7))]) ⟨defaultRoot, by decide⟩
    "/* seven" short
  exact ⟨s, read, congrArg Table.entries (same.mpr legible)⟩

/-- A record of one value that is not legible is read as another record. -/
theorem toRecord_render_single {v : Value} (short : v.Short) (illegible : ¬ v.Legible)
    : ∃ s,
        toRecord none defaultRoot (render (Record.ofList [(Path.module, v)]) defaultRoot []) = .ok s
        ∧ s.values ≠ (Record.ofList [(Path.module, v)]).values := by
  have entries : (Record.ofList [(Path.module, v)]).values.entries = [(Path.module, v)] := rfl
  have shortEntries : ∀ entry ∈ (Record.ofList [(Path.module, v)]).values.entries,
      entry.2.Short := by
    simpa [entries] using short
  refine ⟨_, toRecord_render none ⟨defaultRoot, by decide⟩ [] shortEntries, fun same => ?_⟩
  exact illegible (rereadRecord_values.mp same (Path.module, v) (by simp [entries]))

/-- A text beyond the basic plane is read as two surrogates, and a reference named as a truth value
is read as that truth value.
-/
theorem toRecord_render_illegible
    : (∃ s,
        toRecord none defaultRoot
            (render (Record.ofList [(Path.module, .text [0x1F600])]) defaultRoot [])
          = .ok s
        ∧ s.values ≠ (Record.ofList [(Path.module, .text [0x1F600])]).values)
      ∧ ∃ s,
          toRecord none defaultRoot
              (render (Record.ofList [(Path.module, .reference ⟨"true", by decide +kernel⟩)])
                defaultRoot [])
            = .ok s
          ∧ s.values
            ≠ (Record.ofList [(Path.module, .reference ⟨"true", by decide +kernel⟩)]).values := by
  constructor
  · refine toRecord_render_single trivial fun legible => ?_
    exact absurd (legible 0x1F600 List.mem_cons_self) (by decide)
  · exact toRecord_render_single trivial fun legible => legible.1 rfl

/-- Writing is a fixed point of reading and writing, and what is read depends on no header. -/
theorem render_toRecord_render (r : Record) (root : Path)
    (short : ∀ entry ∈ r.values.entries, entry.2.Short)
    : ∃ s,
        s.paths = r.paths
        ∧ ∀ source header,
            toRecord source root.text (render r root.text header) = .ok s
            ∧ render s root.text header = render r root.text header :=
  ⟨rereadRecord r, paths_rereadRecord r, fun source header =>
    ⟨toRecord_render source root header short, render_rereadRecord r root.text header⟩⟩

/-- A header that looks like an assignment changes nothing, even where values are not legible. -/
theorem render_toRecord_render_beyond
    : ∃ s,
        toRecord none defaultRoot
            (render (Record.ofList [(Path.name, .text [0x1F600])]) defaultRoot "\nrec.x = 1; */")
          = .ok s
        ∧ render s defaultRoot []
          = render (Record.ofList [(Path.name, .text [0x1F600])]) defaultRoot [] := by
  obtain ⟨s, _, fixed⟩ := render_toRecord_render
    (Record.ofList [(Path.name, .text [0x1F600])]) ⟨defaultRoot, by decide⟩ (by
      intro entry member
      rw [List.mem_singleton.mp member]
      trivial)
  exact ⟨s, (fixed none "\nrec.x = 1; */").1, (fixed none []).2⟩

end Recommender.Script
