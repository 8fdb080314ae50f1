import Mathlib.Data.Nat.Init
import Recommender.Document

/-! What a configuration document comes to: a record that can be changed, a reason for which the
document is unusable, or an integer with too many digits. The leaves of a document are data that a
record takes or refuses for a reason that the document reports in its own words.
-/

namespace Recommender

/-- The reasons for which a document is unusable. -/
inductive Unusable.OfDocument : Unusable → Prop where
  | invalidJson (fault : JsonFault) : Unusable.OfDocument (.invalidJson fault)
  | constant (name : Text) : Unusable.OfDocument (.constant name)
  | notObject : Unusable.OfDocument .notObject
  | invalidName (path name : Text) : Unusable.OfDocument (.invalidName path name)
  | unsupported (path shape : Text) : Unusable.OfDocument (.unsupported path shape)
  | invalidPath (path : Text) : Unusable.OfDocument (.invalidPath path)
  | nonFinite (path : Text) (x : Double) : Unusable.OfDocument (.nonFinite path x)

/-- The data that stand at the leaves of a document. -/
inductive Datum.IsLeaf : Datum → Prop where
  | bool (b : Bool) : Datum.IsLeaf (.bool b)
  | int (n : Int) : Datum.IsLeaf (.int n)
  | float (x : Double) : Datum.IsLeaf (.float x)
  | text (t : Text) : Datum.IsLeaf (.text t)
  | reference (r : Reference) : Datum.IsLeaf (.reference r)

namespace Document

/-- A failure that reports why the document of a source is unusable. -/
def Reports (source : Option Text) (failure : Failure) : Prop :=
  ∃ reason, failure = .problem (.unusable source reason) ∧ reason.OfDocument

theorem Reports.of_reason {reason : Unusable} (isReason : reason.OfDocument)
    (source : Option Text)
    : Reports source (.problem (.unusable source reason)) :=
  ⟨reason, rfl, isReason⟩

-----------------------------------------------------------------------------------------
-- Leaves
-----------------------------------------------------------------------------------------

/-- What the search for leaves can come to. -/
def FindsLeaves (source : Option Text) : Except Failure (List (Text × Datum)) → Prop
  | .ok found => ∀ entry ∈ found, entry.2.IsLeaf
  | .error failure => Reports source failure

theorem leaf_outcome (source : Option Text) (path : Text) (d : Datum)
    : FindsLeaves source ((leaf source path d).map fun value => [(path, value)]) := by
  have single {value : Datum} (isLeaf : value.IsLeaf)
      : FindsLeaves source (.ok [(path, value)]) := by
    intro entry member
    rw [List.mem_singleton] at member
    exact member ▸ isLeaf
  fun_cases leaf source path d with
  | case1 => exact single (.reference _)
  | case2 => exact .of_reason (.invalidName _ _) source
  | case3 => exact single (.text _)
  | case4 => exact single (.bool _)
  | case5 => exact single (.int _)
  | case6 => exact single (.float _)
  | case7 => exact .of_reason (.unsupported _ _) source

mutual

/-- The search for leaves, by the recursion of the search. -/
theorem leavesOf_outcome (source : Option Text) (path : Text) (d : Datum)
    : FindsLeaves source (leavesOf source path d) := by
  cases d with
  | map entries =>
      rw [leavesOf]
      exact leaves_outcome source path entries
  | missing =>
      rw [leavesOf]
      exact fun _ member => absurd member List.not_mem_nil
  | bool | int | float | text | reference | list =>
      rw [leavesOf]
      · exact leaf_outcome source path _
      all_goals simp
termination_by sizeOf d

theorem leaves_outcome (source : Option Text) (above : Text) (entries : List (Text × Datum))
    : FindsLeaves source (leaves source above entries) := by
  match entries with
  | [] =>
      rw [leaves]
      exact fun _ member => absurd member List.not_mem_nil
  | (key, d) :: rest =>
      have first := leavesOf_outcome source (Path.joinParts [above, key]) d
      have others := leaves_outcome source above rest
      rw [leaves]
      cases ofFirst : leavesOf source (Path.joinParts [above, key]) d with
      | error failure =>
          rw [ofFirst] at first
          exact first
      | ok found =>
          cases ofOthers : leaves source above rest with
          | error failure =>
              rw [ofOthers] at others
              exact others
          | ok more =>
              rw [ofFirst] at first
              rw [ofOthers] at others
              intro entry member
              exact (List.mem_append.mp member).elim (first entry) (others entry)
termination_by sizeOf entries

end

-----------------------------------------------------------------------------------------
-- Assignments
-----------------------------------------------------------------------------------------

/-- A record that can be changed takes a leaf and can still be changed, or refuses its path or its
number.
-/
theorem set_leaf {r : Record} (unfrozen : r.frozen = false) {d : Datum} (isLeaf : d.IsLeaf)
    (path : Text)
    : (∃ left, r.set (.text path) d = .ok left ∧ left.frozen = false)
      ∨ r.set (.text path) d = .error (.problem (.invalidPath (.text path)))
      ∨ ∃ place x, r.set (.text path) d = .error (.nonFinite place x) := by
  rw [Record.set, unfrozen]
  simp only [Bool.false_eq_true, if_false, Record.pathOf?]
  cases Path.ofText? path with
  | none => exact .inr (.inl rfl)
  | some path =>
      dsimp only
      cases isLeaf with
      | bool | int | text | reference => exact .inl ⟨_, rfl, unfrozen⟩
      | float x =>
          cases x with
          | finite => exact .inl ⟨_, rfl, unfrozen⟩
          | infinite | nan => exact .inr (.inr ⟨_, _, rfl⟩)

/-- What the making of a record can come to. -/
def MakesRecord (source : Option Text) : Except Failure Record → Prop
  | .ok r => r.frozen = false
  | .error failure => Reports source failure

/-- Leaves are assigned one after the other, by list induction; the record can be changed until the
last.
-/
theorem assignLeaves_outcome {found : List (Text × Datum)}
    (areLeaves : ∀ entry ∈ found, entry.2.IsLeaf) (source : Option Text) {r : Record}
    (unfrozen : r.frozen = false)
    : MakesRecord source (assignLeaves source r found) := by
  induction found generalizing r with
  | nil => exact unfrozen
  | cons entry rest ih =>
      obtain ⟨path, d⟩ := entry
      obtain ⟨isLeaf, areLeaves⟩ := List.forall_mem_cons.mp areLeaves
      rw [assignLeaves]
      rcases set_leaf unfrozen isLeaf path with ⟨left, taken, still⟩ | refused | ⟨_, x, refused⟩
      · rw [taken]
        exact ih areLeaves still
      · rw [refused]
        exact .of_reason (.invalidPath path) source
      · rw [refused]
        exact .of_reason (.nonFinite path x) source

-----------------------------------------------------------------------------------------
-- Documents
-----------------------------------------------------------------------------------------

/-- A document whose text can be read gives a record that can be changed or reports a reason. -/
theorem toRecord_of_parse {t : Text} {d : Datum} (read : Json.parse rules t = .ok d)
    (source : Option Text)
    : MakesRecord source (toRecord source t) := by
  rw [toRecord, read]
  cases d with
  | map entries =>
      have outcome := leaves_outcome source [] entries
      dsimp only
      cases ofLeaves : leaves source [] entries with
      | error failure =>
          rw [ofLeaves] at outcome
          exact outcome
      | ok found =>
          rw [ofLeaves] at outcome
          exact assignLeaves_outcome outcome source rfl
  | missing | bool | int | float | text | reference | list => exact .of_reason .notObject source

/-- A document fails with an integer of too many digits exactly when its reading stops there; every
other failure reports a reason.
-/
theorem toRecord_outcome (source : Option Text) (t : Text)
    : MakesRecord source (toRecord source t)
      ∨ ∃ count,
          Json.parse rules t = .error (.tooManyDigits count)
          ∧ toRecord source t = .error (.tooManyDigits count) := by
  cases read : Json.parse rules t with
  | ok d => exact .inl (toRecord_of_parse read source)
  | error stop =>
      have failed : toRecord source t = .error (stopped source t stop) := by
        rw [toRecord, read]
      rw [failed]
      cases stop with
      | fault reason rest => exact .inl (.of_reason (.invalidJson _) source)
      | constant name => exact .inl (.of_reason (.constant name) source)
      | tooManyDigits count => exact .inr ⟨count, rfl, rfl⟩

end Document
end Recommender
