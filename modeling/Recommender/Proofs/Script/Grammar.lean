import Recommender.Proofs.Script.Acceptance
import Recommender.Proofs.Script.Integers
import Recommender.Proofs.Script.RoundTrip

/-! The grammar of statements. A statement is accepted exactly when it consists of a path below the
root, an equals sign and a value that is written in one of the forms of values, and it can be read
in one way only.
-/

namespace Recommender.Script

-----------------------------------------------------------------------------------------
-- Statements
-----------------------------------------------------------------------------------------

/-- A statement that assigns a value at a path below a root: the target, an equals sign with blanks
around it or without, and a written form of the value.
-/
def Assigns (root : Path) (statement : Text) (path : Path) (v : Value) : Prop :=
  ∃ before after written : Text,
    statement = root.text ++ "." ++ path.text ++ before ++ "=" ++ after ++ written
    ∧ (∀ c ∈ before, c.isBlank = true)
    ∧ (∀ c ∈ after, c.isBlank = true)
    ∧ WritesValue written v

/-- A statement whose right-hand side is an integer with more digits than are read. -/
def HoldsLongInteger (statement : Text) : Prop :=
  ∃ (left after written : Text) (count : Nat),
    statement = left ++ "=" ++ after ++ written
    ∧ left ≠ []
    ∧ (∀ c ∈ left, c ≠ CodePoint.equals)
    ∧ (∀ c ∈ after, c.isBlank = true)
    ∧ WritesInteger written count
    ∧ maxIntegerDigits < count

/-- A written form of a value begins and ends with code points that are not blank. -/
theorem trimmed_of_writesValue {t : Text} {v : Value} (writes : WritesValue t v)
    : t ≠ [] ∧ Text.Trimmed t := by
  rcases trimmedValue_of_writesValue writes with read | ⟨number, isNumber, _, _⟩
  · refine ⟨?_, trimmed_of_trimmedValue read⟩
    rintro rfl
    cases read
  · exact ⟨(ne_of_number? isNumber).1, (bare_of_number? isNumber).trimmed⟩

theorem ofString_equals : (Text.ofString "=" : Text) = [CodePoint.equals] := rfl

/-- The target of an assignment with blanks behind it stands in front of the first equals sign. -/
theorem sides?_of_assigns (root path : Path) {before : Text}
    (blankBefore : ∀ c ∈ before, c.isBlank = true) (after written : Text)
    : sides? (root.text ++ "." ++ path.text ++ before ++ "=" ++ after ++ written)
      = some (target root path ++ before, after ++ written) := by
  have bare := bare_target root path
  refine sides?_eq_some.mpr ⟨?_, by simp [target_ne_nil], fun c member => ?_⟩
  · simp [target, ofString_equals]
  · rcases List.mem_append.mp member with inside | blank
    · exact CodePoint.ne_of_isBare (bare c inside) (by decide)
    · rintro rfl
      exact absurd (blankBefore _ blank) (by decide)

theorem trim_target_blanks (root path : Path) {before : Text}
    (blankBefore : ∀ c ∈ before, c.isBlank = true)
    : Text.trim (target root path ++ before) = target root path :=
  (bare_target root path).trimmed.trim_blanks (target_ne_nil root path) [] _ (by simp) blankBefore

theorem trim_of_writesValue {after written : Text} {v : Value}
    (blankAfter : ∀ c ∈ after, c.isBlank = true) (writes : WritesValue written v)
    : Text.trim (after ++ written) = written := by
  obtain ⟨nonempty, trimmed⟩ := trimmed_of_writesValue writes
  have trim := trimmed.trim_blanks nonempty after [] blankAfter (by simp)
  rwa [List.append_nil] at trim

/-- What becomes of a statement that assigns a value is decided by the written form of the value. -/
theorem assignment_of_assigns (root path : Path) {before after written : Text} {v : Value}
    (blankBefore : ∀ c ∈ before, c.isBlank = true) (blankAfter : ∀ c ∈ after, c.isBlank = true)
    (writes : WritesValue written v) (source : Option Text) (line : Nat)
    : assignment source root.text line
          (root.text ++ "." ++ path.text ++ before ++ "=" ++ after ++ written)
      = match trimmedValue written with
        | .ok v => .ok ⟨line, path, v⟩
        | .error fault => .error (valueFailure source line fault) := by
  rw [assignment, sides?_of_assigns root path blankBefore]
  cases read : trimmedValue written <;>
    simp only [trim_target_blanks root path blankBefore, dropLead?_target, Path.ofText?_text, value,
      trim_of_writesValue blankAfter writes, read]

/-- The sides of a trimmed statement are trimmed at the two ends of the statement. -/
theorem sides_of_trimmed {statement target right : Text} (trimmed : Text.Trimmed statement)
    (form : statement = target ++ CodePoint.equals :: right)
    : ∃ before after : Text,
        target = target.trim ++ before
        ∧ right = after ++ right.trim
        ∧ (∀ c ∈ before, c.isBlank = true)
        ∧ ∀ c ∈ after, c.isBlank = true := by
  obtain ⟨begin, before, targetForm, blankBegin, blankBefore⟩ := Text.trim_cut target
  obtain ⟨after, ending, rightForm, blankAfter, blankEnding⟩ := Text.trim_cut right
  have noBegin : begin = [] := by
    cases begin with
    | nil => rfl
    | cons c rest =>
        have visible := trimmed.begins c (by rw [form, targetForm]; rfl)
        rw [blankBegin c List.mem_cons_self] at visible
        cases visible
  have noEnding : ending = [] := by
    rcases List.eq_nil_or_concat ending with none | ⟨rest, c, rfl⟩
    · exact none
    · have last : statement.getLast? = some c := by
        rw [form, rightForm, List.concat_eq_append, ← List.append_assoc, ← List.cons_append,
          ← List.append_assoc, List.getLast?_concat]
      have visible := trimmed.ends c last
      rw [blankEnding c (by simp)] at visible
      cases visible
  rw [noBegin, List.nil_append] at targetForm
  rw [noEnding, List.append_nil] at rightForm
  exact ⟨before, after, targetForm, rightForm, blankBefore, blankAfter⟩

/-- A trimmed statement that is accepted assigns its value at its path. -/
theorem assigns_of_assignment {source : Option Text} {root : Path} {line : Nat} {statement : Text}
    (trimmed : Text.Trimmed statement) {made : Assignment}
    (accepted : assignment source root.text line statement = .ok made)
    : Assigns root statement made.path made.value := by
  have same := assignment_pairOf? source root.text line statement
  rw [accepted] at same
  obtain ⟨target, right, form, left, read⟩ := pairOf?_sound same.symm
  obtain ⟨before, after, targetForm, rightForm, blankBefore, blankAfter⟩ :=
    sides_of_trimmed trimmed form
  refine ⟨before, after, right.trim, ?_, blankBefore, blankAfter, writesValue_of_trimmedValue read⟩
  calc statement
      = (target.trim ++ before) ++ CodePoint.equals :: (after ++ right.trim) := by
        rw [← targetForm, ← rightForm, form]
    _ = root.text ++ "." ++ made.path.text ++ before ++ "=" ++ after ++ right.trim := by
        simp [left, ofString_equals]

/-- A statement can be read in one way only. -/
theorem assigns_unique {root path path' : Path} {statement : Text} {v v' : Value}
    (first : Assigns root statement path v) (second : Assigns root statement path' v')
    : path = path' ∧ v = v' := by
  obtain ⟨before, after, written, rfl, blankBefore, blankAfter, writes⟩ := first
  obtain ⟨before', after', written', form, blankBefore', blankAfter', writes'⟩ := second
  have cut := sides?_of_assigns root path blankBefore after written
  rw [form, sides?_of_assigns root path' blankBefore' after' written', Option.some.injEq,
    Prod.mk.injEq] at cut
  have left := congrArg Text.trim cut.1
  have right := congrArg Text.trim cut.2
  rw [trim_target_blanks root path blankBefore, trim_target_blanks root path' blankBefore'] at left
  rw [trim_of_writesValue blankAfter writes, trim_of_writesValue blankAfter' writes'] at right
  have texts : path'.text = path.text := List.append_cancel_left left
  exact ⟨(Path.eq_of_text texts).symm, writesValue_unique (right ▸ writes) writes'⟩

/-- A trimmed statement that is refused for its digits holds an integer with too many of them. -/
theorem holdsLongInteger_of_assignsInteger {root statement : Text} {count : Nat}
    (trimmed : Text.Trimmed statement) (assigns : AssignsInteger root statement count)
    : HoldsLongInteger statement := by
  obtain ⟨target, right, below, cut, _, _, written, many⟩ := assigns
  obtain ⟨form, nonempty, before⟩ := sides?_eq_some.mp cut
  obtain ⟨_, after, _, rightForm, _, blankAfter⟩ := sides_of_trimmed trimmed form
  refine ⟨target, after, right.trim, count, ?_, nonempty, before, blankAfter, written, many⟩
  calc statement
      = target ++ CodePoint.equals :: (after ++ right.trim) := by rw [← rightForm, form]
    _ = target ++ "=" ++ after ++ right.trim := by simp [ofString_equals]

/-- No statement that is short enough holds an integer with too many digits. -/
theorem not_holdsLongInteger {statement : Text} (short : statement.length ≤ maxIntegerDigits)
    : ¬ HoldsLongInteger statement := by
  rintro ⟨left, after, written, count, rfl, _, _, _, ⟨sign, _, digits, rfl, _, rfl⟩, many⟩
  simp only [List.length_append] at short
  omega

/-- A trimmed statement without such an integer is accepted exactly when it assigns a value at a
path below the root, and is refused with a fault of its line otherwise; no statement can be read in
two ways.
-/
theorem assignment_eq_ok_iff_assigns (source : Option Text) (root : Path) (line : Nat)
    : (∀ statement : Text,
          statement.trim = statement
            → ¬ HoldsLongInteger statement
            → (∀ made,
                assignment source root.text line statement = .ok made
                ↔ made.line = line ∧ Assigns root statement made.path made.value)
              ∧ ((¬ ∃ path v, Assigns root statement path v)
                → ∃ fault text,
                    assignment source root.text line statement
                    = .error (failureAt source line fault text)))
      ∧ ∀ statement path path' v v',
          Assigns root statement path v
            → Assigns root statement path' v' → path = path' ∧ v = v' := by
  refine ⟨fun statement trim short => ?_, fun statement path path' v v' => assigns_unique⟩
  have trimmed := Text.Trimmed.of_trim trim
  -- what is refused for its digits was excluded
  have refused {failure : Failure}
      (wrong : assignment source root.text line statement = .error failure)
      : ∃ fault text, failure = failureAt source line fault text := by
    cases assignment_failure wrong with
    | @fault fault _ text => exact ⟨fault, text, rfl⟩
    | tooManyDigits many =>
        exact absurd (holdsLongInteger_of_assignsInteger trimmed
          (assignment_eq_tooManyDigits.mp wrong)) short
  constructor
  · intro made
    constructor
    · intro accepted
      exact ⟨line_of_assignment accepted, assigns_of_assignment trimmed accepted⟩
    · rintro ⟨rfl, before, after, written, rfl, blankBefore, blankAfter, writes⟩
      have decided := assignment_of_assigns root made.path blankBefore blankAfter writes source
        made.line
      rcases trimmedValue_of_writesValue writes with read | ⟨number, _, _, read⟩
      · rw [decided, read]
      · rw [read] at decided
        obtain ⟨fault, text, other⟩ := refused decided
        cases other
  · intro noReading
    cases outcome : assignment source root.text line statement with
    | ok made => exact absurd ⟨_, _, assigns_of_assignment trimmed outcome⟩ noReading
    | error failure =>
        obtain ⟨fault, text, rfl⟩ := refused outcome
        exact ⟨fault, text, rfl⟩

/-- A literal may hold equals signs and escaped quotes, and any blanks may stand around the first
equals sign.
-/
theorem assignment_eq_ok_iff_assigns_literal
    : let root : Path := ⟨"rec", by decide⟩
      let path : Path := ⟨"knn.sep", by decide⟩
      let statement : Text := "rec.knn.sep\t\u00a0=\u3000'= \\'=\\x3d'"
      (statement.trim = statement ∧ ¬ HoldsLongInteger statement)
      ∧ assignment none root.text 7 statement = .ok ⟨7, path, .text "= '=="⟩ := by
  intro root path statement
  have trimmed : statement.trim = statement := by decide
  have short : ¬ HoldsLongInteger statement := not_holdsLongInteger (by decide)
  have found : literalBody? CodePoint.singleQuote "= \\'=\\x3d'" = some "= \\'=\\x3d" := by
    decide
  have writes : WritesValue "'= \\'=\\x3d'" (.text "= '==") :=
    .literal (by decide) (enclosed_of_literalBody? found).2 (by decide +kernel)
  have assigns : Assigns root statement path (.text "= '==") :=
    ⟨[CodePoint.tab, 0xA0], [0x3000], _, by decide, List.all_eq_true.mp (by decide),
      List.all_eq_true.mp (by decide), writes⟩
  have accepted := (assignment_eq_ok_iff_assigns none root 7).1 statement trimmed short
  exact ⟨⟨trimmed, short⟩, (accepted.1 _).mpr ⟨rfl, assigns⟩⟩

end Recommender.Script
