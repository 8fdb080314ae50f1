import Recommender.Proofs.Algorithm.Accounting

/-! What a hand-over comes to. Without a module nothing else is looked at; once the module is found,
a value that cannot be compared with its bound stops everything, else the issues decide: with none
the record becomes an algorithm, with any it is refused with all of them.
-/

namespace Recommender.Algorithm

open Validation

variable {registry : Registry} {module : Component} {strict : Bool} {fallback source : Option Text}
  {r : Record}

/-- All values that a record assigns below the module can be compared with the bounds of their
parameters.
-/
def Comparable (registry : Registry) (module : Component) (r : Record) : Prop :=
  ∀ override ∈ (r.below Path.module).entries, ¬ Incomparable .record registry module override

/-- Nothing is wrong with a record for its module: all values can be compared, and there are no
issues.
-/
structure Clear (registry : Registry) (module : Component) (strict : Bool) (r : Record) : Prop where
  comparable : Comparable registry module r
  noIssues : issuesOf registry module strict r = []

/-- The issues of a record are those of its name, of its unknown paths and of its overrides. -/
theorem issuesOf_eq (registry : Registry) (module : Component) (strict : Bool) (r : Record)
    : issuesOf registry module strict r
      = nameIssues r
        ++ (unknownIssues strict r
          ++ (r.below Path.module).entries.filterMap
              (overrideIssue? .record registry module strict)) := by
  rw [issuesOf, nameIssues_eq, unknownIssues_eq, Record.below_entries, List.filterMap_filterMap]
  rfl

theorem ofRecord_of_noModule {failure : Failure}
    (missing : moduleOf registry source r = .error failure)
    : ofRecord registry strict fallback source r = Logged.fail failure := by
  rw [ofRecord, handOver, missing]

/-- A record without a module says so; one whose module is no reference, or no reference to a
module, has that as its only issue; and a reference may stand for nothing.
-/
theorem moduleOf_error {failure : Failure} (missing : moduleOf registry source r = .error failure)
    : failure = .problem (.unusable source .noModule)
      ∨ (∃ issue, failure = .problem (.issue issue))
      ∨ ∃ value,
          failure
            = .problem
                (.invalid [.mismatch Path.module.text (.component .module) value] source) := by
  rw [moduleOf] at missing
  split at missing
  · exact .inl (Except.error.inj missing).symm
  · split at missing
    · exact .inr (.inl ⟨_, (Except.error.inj missing).symm⟩)
    · split at missing
      · cases missing
      · exact .inr (.inr ⟨_, (Except.error.inj missing).symm⟩)
  · exact .inr (.inr ⟨_, (Except.error.inj missing).symm⟩)

/-- The module of a record is what a reference at its path stands for, if that is a module. -/
theorem moduleOf_eq_ok
    : moduleOf registry source r = .ok module
      ↔ ∃ reference,
          r.get? Path.module = some (.reference reference)
          ∧ registry.resolve reference.name (some .module) = .ok module
          ∧ module.kind = .module := by
  constructor
  · intro found
    rw [moduleOf] at found
    split at found
    · cases found
    · next reference assigned =>
        split at found
        · cases found
        · next c resolved =>
            split at found
            · next isModule =>
                cases found
                exact ⟨reference, assigned, resolved, isModule⟩
            · cases found
    · cases found
  · rintro ⟨reference, assigned, resolved, isModule⟩
    simp only [moduleOf, assigned, resolved, isModule, if_true]

theorem moduleOf_congr {s : Record} (same : s.get? Path.module = r.get? Path.module)
    : moduleOf registry source s = moduleOf registry source r := by
  rw [moduleOf, moduleOf, same]

theorem recordName_congr {s : Record} (same : s.get? Path.name = r.get? Path.name)
    : recordName s = recordName r := by
  rw [recordName, recordName, same]

/-- Once the module is found, the examination of the overrides decides first, then the issues. -/
theorem ofRecord_outcome (found : moduleOf registry source r = .ok module)
    : (Comparable registry module r
        ∧ (ofRecord registry strict fallback source r).outcome
          = if issuesOf registry module strict r = [] then
              .ok (configured registry module strict fallback source r)
            else .error (.problem (.invalid (issuesOf registry module strict r) source)))
      ∨ (¬ Comparable registry module r
        ∧ (ofRecord registry strict fallback source r).outcome = .error .incomparable) := by
  have ends := examine_failure .record registry module strict (r.below Path.module).entries
  rw [ofRecord, handOver, found]
  dsimp only
  rcases ends with complete | short
  · refine Or.inl ⟨examine_failure_eq_none.mp complete, ?_⟩
    have gathered : nameIssues r ++ unknownIssues strict r
            ++ (examine .record registry module strict (r.below Path.module).entries).issues
          = issuesOf registry module strict r := by
      rw [(examine_of_complete complete).2.1, issuesOf_eq, List.append_assoc]
    rw [complete, gathered]
    cases issuesOf registry module strict r <;> rfl
  · refine Or.inr ⟨fun comparable => ?_, by rw [short]⟩
    rw [examine_failure_eq_none.mpr comparable] at short
    cases short

/-- Nothing is wrong with a record exactly when its name and its paths are in order and a value is
kept for each override.
-/
theorem clear_iff
    : Clear registry module strict r
      ↔ nameIssues r = []
        ∧ unknownIssues strict r = []
        ∧ ∀ override ∈ (r.below Path.module).entries,
            (keptValue? .record registry module strict override).isSome = true := by
  rw [← accepted_iff]
  constructor
  · rintro ⟨comparable, clear⟩
    rw [issuesOf_eq, List.append_eq_nil_iff, List.append_eq_nil_iff] at clear
    exact ⟨clear.1, clear.2.1, comparable, clear.2.2⟩
  · rintro ⟨name, unknown, comparable, clear⟩
    refine ⟨comparable, ?_⟩
    rw [issuesOf_eq, name, unknown, clear]
    rfl

/-- A record becomes an algorithm exactly when its module is found and nothing is wrong with it. -/
theorem ofRecord_eq_ok {a : Algorithm}
    : (ofRecord registry strict fallback source r).outcome = .ok a
      ↔ ∃ module,
          moduleOf registry source r = .ok module
          ∧ Clear registry module strict r
          ∧ configured registry module strict fallback source r = a := by
  cases found : moduleOf registry source r with
  | error failure => simp [ofRecord_of_noModule found, Logged.fail]
  | ok module =>
      rcases ofRecord_outcome found with ⟨comparable, ends⟩ | ⟨stuck, ends⟩
      · rw [ends]
        by_cases none : issuesOf registry module strict r = []
        · have clear : Clear registry module strict r := ⟨comparable, none⟩
          simp [none, clear]
        · have other : ¬ Clear registry module strict r := fun clear => none clear.noIssues
          simp [none, other]
      · have other : ¬ Clear registry module strict r := fun clear => stuck clear.comparable
        simp [ends, other]

/-- A record whose module is found is refused with issues exactly when it has some and nothing
cannot be compared; the issues are all of its issues.
-/
theorem ofRecord_eq_invalid (found : moduleOf registry source r = .ok module) {issues : List Issue}
    {named : Option Text}
    : (ofRecord registry strict fallback source r).outcome
        = .error (.problem (.invalid issues named))
      ↔ Comparable registry module r
        ∧ issuesOf registry module strict r ≠ []
        ∧ issuesOf registry module strict r = issues
        ∧ source = named := by
  rcases ofRecord_outcome found with ⟨comparable, ends⟩ | ⟨stuck, ends⟩
  · rw [ends]
    by_cases clear : issuesOf registry module strict r = [] <;> simp [clear, comparable]
  · simp [ends, stuck]

-----------------------------------------------------------------------------------------
-- What is configured
-----------------------------------------------------------------------------------------

/-- The notices of a hand-over are those of ignored paths and those of passed overrides. -/
theorem ofRecord_notices (found : moduleOf registry source r = .ok module)
    : (ofRecord registry strict fallback source r).notices
      = (if strict then []
          else (unknownPaths r).map
            (Notice.ignored ·.text (holder source (nameOf r fallback module))))
        ++ (examine .record registry module strict (r.below Path.module).entries).notices := by
  rw [ofRecord, handOver, found]
  dsimp only
  split <;> rfl

/-- The parameters of a configured algorithm are the values that are kept for the overrides. -/
theorem configured_entries (clear : Clear registry module strict r)
    : (configured registry module strict fallback source r).parameters.entries
      = (r.below Path.module).entries.filterMap fun override =>
          (keptValue? .record registry module strict override).map (override.1, ·) :=
  (configured_parameters fallback source (examine_failure_eq_none.mpr clear.comparable)
    clear.noIssues).1

/-- The parameters of a configured algorithm have the paths of the overrides. -/
theorem configured_keys (clear : Clear registry module strict r)
    : (configured registry module strict fallback source r).parameters.keys
      = (r.below Path.module).keys :=
  (configured_parameters fallback source (examine_failure_eq_none.mpr clear.comparable)
    clear.noIssues).2

/-- The parameters of a configured algorithm lie below the module where the record has them, in its
order.
-/
theorem configured_extend (clear : Clear registry module strict r)
    : (configured registry module strict fallback source r).parameters.keys.map Path.module.extend
      = r.paths.filter fun p => (Path.module.below? p).isSome := by
  have texts := configured_paths fallback source (examine_failure_eq_none.mpr clear.comparable)
    clear.noIssues
  refine List.map_inj_right (fun _ _ => Path.eq_of_text) |>.mp ?_
  rw [List.map_map]
  exact texts

/-- A parameter of a configured algorithm has the value that is kept for what the record assigns to
it.
-/
theorem configured_find? (clear : Clear registry module strict r) (k : Path)
    : (configured registry module strict fallback source r).parameters.find? k
      = (r.get? (Path.module.extend k)).bind fun given =>
          keptValue? .record registry module strict (k, given) := by
  refine Option.ext fun value => ?_
  rw [Table.find?_eq_some, Option.bind_eq_some_iff, configured_entries clear, List.mem_filterMap,
    ← Record.find?_below]
  simp only [Table.find?_eq_some]
  constructor
  · rintro ⟨override, member, kept⟩
    obtain ⟨_, same, pair⟩ := Option.map_eq_some_iff.mp kept
    obtain ⟨rfl, rfl⟩ := Prod.mk.inj pair
    exact ⟨override.2, member, same⟩
  · rintro ⟨given, member, kept⟩
    exact ⟨(k, given), member, by rw [kept, Option.map_some]⟩

end Recommender.Algorithm
