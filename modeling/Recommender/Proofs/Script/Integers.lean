import Recommender.Proofs.Script.Forms
import Recommender.Proofs.Script.Outcome

/-! Integers with more digits than are read. A script stops with one exactly when every statement
before it assigns a value and the statement of the integer would, but for its digits.
-/

namespace Recommender.Script

-----------------------------------------------------------------------------------------
-- Written integers
-----------------------------------------------------------------------------------------

/-- An integer as it is written: a sign or none, and so many digits of any script. -/
def WritesInteger (t : Text) (count : Nat) : Prop :=
  ∃ sign ∈ signs, ∃ digits : Text,
    t = sign ++ digits ∧ (∀ c ∈ digits, c.isDigit = true) ∧ digits.length = count

/-- A text that is read as an integer writes it with all its digits. -/
theorem writesInteger_of_number? {t : Text} {number : WrittenNumber}
    (read : number? t = some number) (isInt : number.isInt = true)
    : WritesInteger t number.whole.length := by
  cases writesNumber_of_number? read with
  | @mk sign whole power fraction exponent isSign isDigit _ _ ends =>
      simp only [WrittenNumber.isInt, Bool.and_eq_true, Option.isNone_iff_eq_none,
        Option.map_eq_none_iff, exponent?_eq_none_iff ends] at isInt
      obtain ⟨rfl, rfl⟩ := isInt
      exact ⟨sign, isSign, whole, by simp [pointed], isDigit,
        (Text.length_filterMap_digit? isDigit).symm⟩

/-- A written integer with digits is read as one with as many. -/
theorem number?_of_writesInteger {t : Text} {count : Nat} (written : WritesInteger t count)
    (positive : 0 < count)
    : ∃ number, number? t = some number ∧ number.isInt = true ∧ number.whole.length = count := by
  obtain ⟨sign, isSign, digits, rfl, isDigit, rfl⟩ := written
  have nonempty : digits ≠ [] := List.length_pos_iff.mp positive
  have whole : WritesNumber (sign ++ digits ++ pointed none ++ []) _ :=
    .mk isSign isDigit (by simp) (by simpa) rfl
  have read := number?_of_writesNumber whole
  simp only [pointed, List.append_nil] at read
  exact ⟨_, read, rfl, Text.length_filterMap_digit? isDigit⟩

/-- A trimmed text is refused for its digits exactly when it writes an integer with too many. -/
theorem trimmedValue_eq_tooManyDigits {t : Text} {count : Nat}
    : trimmedValue t = .error (.tooManyDigits count)
      ↔ WritesInteger t count ∧ maxIntegerDigits < count := by
  constructor
  · intro refused
    obtain ⟨number, read, isInt, rfl, many⟩ := tooManyDigits_of_trimmedValue refused
    exact ⟨writesInteger_of_number? read isInt, many⟩
  · rintro ⟨written, many⟩
    obtain ⟨number, read, isInt, rfl⟩ :=
      number?_of_writesInteger written (Nat.lt_trans (by decide) many)
    obtain ⟨nonempty, noTrue, noFalse⟩ := ne_of_number? read
    have noLiteral := literalBodyOf?_bare (bare_of_number? read)
    simp [trimmedValue, nonempty, noTrue, noFalse, noLiteral, read, isInt, Nat.not_le_of_lt many]

-----------------------------------------------------------------------------------------
-- Statements
-----------------------------------------------------------------------------------------

/-- A statement that would assign an integer with so many digits, more than are read. -/
def AssignsInteger (root statement : Text) (count : Nat) : Prop :=
  ∃ target right below,
    sides? statement = some (target, right)
    ∧ Text.dropLead? (root ++ ".") target.trim = some below
    ∧ below.isPath = true
    ∧ WritesInteger right.trim count
    ∧ maxIntegerDigits < count

theorem assignment_eq_tooManyDigits {source : Option Text} {root statement : Text}
    {line count : Nat}
    : assignment source root line statement = .error (.tooManyDigits count)
      ↔ AssignsInteger root statement count := by
  constructor
  · intro refused
    unfold assignment at refused
    dsimp only at refused
    split at refused
    · cases refused
    · next target right cut =>
        split at refused
        · cases refused
        · next below dropped =>
            split at refused
            · cases refused
            · next path isPath =>
                split at refused
                · cases refused
                · next fault wrong =>
                    cases fault with
                    | script => cases refused
                    | tooManyDigits =>
                        cases refused
                        have valid : below.isPath = true := by
                          rw [Path.ofText?] at isPath
                          split at isPath
                          · assumption
                          · cases isPath
                        exact ⟨target, right, below, cut, dropped, valid,
                          trimmedValue_eq_tooManyDigits.mp wrong⟩
  · rintro ⟨target, right, below, cut, dropped, valid, long⟩
    have wrong : value right = .error (.tooManyDigits count) :=
      trimmedValue_eq_tooManyDigits.mpr long
    simp [assignment, cut, dropped, Path.ofText?, valid, wrong, valueFailure]

/-- Reading stops with an integer exactly at a statement that would assign it, behind statements
that each assign a value, by list induction.
-/
theorem readStatements_eq_tooManyDigits {source : Option Text} {root : Text}
    {numbered : List (Nat × Text)} {count : Nat}
    : (readStatements source root numbered).failure = some (.tooManyDigits count)
      ↔ ∃ before statement after,
          numbered.map Prod.snd = before ++ statement :: after
          ∧ (∀ earlier ∈ before, (pairOf? root earlier).isSome = true)
          ∧ AssignsInteger root statement count := by
  induction numbered with
  | nil => simp [readStatements]
  | cons first rest ih =>
      obtain ⟨line, statement⟩ := first
      have same := assignment_pairOf? source root line statement
      rw [readStatements]
      cases made : assignment source root line statement with
      | error failure =>
          rw [made] at same
          constructor
          · intro stopped
            cases stopped
            exact ⟨[], statement, rest.map Prod.snd, rfl, by simp,
              assignment_eq_tooManyDigits.mp made⟩
          · rintro ⟨before, stopping, after, cut, assigned, long⟩
            cases before with
            | nil =>
                cases cut
                rw [assignment_eq_tooManyDigits.mpr long] at made
                cases made
                rfl
            | cons earlier before =>
                obtain ⟨rfl, _⟩ := List.cons.inj cut
                have taken := assigned statement List.mem_cons_self
                rw [← same] at taken
                cases taken
      | ok assigned =>
          rw [made] at same
          refine ih.trans ⟨?_, ?_⟩
          · rintro ⟨before, stopping, after, cut, earlierAssigned, long⟩
            refine ⟨statement :: before, stopping, after, by simp [cut], ?_, long⟩
            exact List.forall_mem_cons.mpr ⟨by rw [← same]; rfl, earlierAssigned⟩
          · rintro ⟨before, stopping, after, cut, earlierAssigned, long⟩
            cases before with
            | nil =>
                cases cut
                rw [assignment_eq_tooManyDigits.mpr long] at made
                cases made
            | cons earlier before =>
                obtain ⟨_, tail⟩ := List.cons.inj cut
                exact ⟨before, stopping, after, tail,
                  (List.forall_mem_cons.mp earlierAssigned).2, long⟩

-----------------------------------------------------------------------------------------
-- Scripts
-----------------------------------------------------------------------------------------

/-- A script that stops at an integer with too many digits. -/
def StopsAtInteger (root t : Text) (count : Nat) : Prop :=
  ∃ stripped before statement after,
    strip t = .ok stripped
    ∧ statementsOf stripped = before ++ statement :: after
    ∧ (∀ earlier ∈ before, (pairOf? root earlier).isSome = true)
    ∧ AssignsInteger root statement count

theorem toRecord_eq_tooManyDigits {source : Option Text} {root t : Text} {count : Nat}
    : toRecord source root t = .error (.tooManyDigits count) ↔ StopsAtInteger root t count := by
  rw [toRecord_eq_error, read]
  cases stripped : strip t with
  | error opening => simp [StopsAtInteger, stripped, failureAt]
  | ok stripped' =>
      dsimp only
      rw [readStatements_eq_tooManyDigits, numberedStatements_map]
      simp [StopsAtInteger, stripped]

end Recommender.Script
