import Recommender.Proofs.Algorithm.Outcome
import Recommender.Proofs.Record.Assignments

/-! The order of assignments. Records with the same values at the same paths, in whatever order,
come to the same: the same algorithm but for the order of its tables, the same issues but for their
order, or the same failure.
-/

namespace Recommender

/-- A value equals itself, case by case. -/
theorem Value.equals_refl (v : Value) : v.equals v = true := by
  cases v <;> simp [Value.equals, toInt?, FiniteDouble.equals]

namespace Algorithm

open Validation

variable {registry : Registry} {module : Component} {strict : Bool} {fallback source : Option Text}
  {r s : Record}

-----------------------------------------------------------------------------------------
-- Alike algorithms
-----------------------------------------------------------------------------------------

/-- Two algorithms have the same name and module, and under each key the same parameter, the same
attribute and the same value in effect. The defaults may fail, and do so in both.
-/
structure Alike (a b : Algorithm) : Prop where
  name : b.name = a.name
  module : b.module = a.module
  parameters (k : Path) : b.parameters.find? k = a.parameters.find? k
  attributes (k : Path) : b.attributes.find? k = a.attributes.find? k
  effective : b.effective.map Table.find? = a.effective.map Table.find?

/-- Two outcomes are alike algorithms, the same issues in any order, or the same failure. -/
inductive SameOutcome : Except Failure Algorithm → Except Failure Algorithm → Prop where
  | configured {a b : Algorithm} : Alike a b → SameOutcome (.ok a) (.ok b)
  | refused {issues others : List Issue} {source : Option Text} :
      issues.Perm others →
      SameOutcome (.error (.problem (.invalid issues source)))
        (.error (.problem (.invalid others source)))
  | failed (failure : Failure) : SameOutcome (.error failure) (.error failure)

/-- In effect is the parameter where there is one, and else the default. -/
theorem effective_find? (a : Algorithm)
    : a.effective.map Table.find?
      = a.module.defaults.map fun defaults k =>
          ((a.parameters.find? k).map Value.toDatum).or (defaults.find? k) := by
  rw [Algorithm.effective]
  cases a.module.defaults with
  | error failure => rfl
  | ok defaults =>
      refine congrArg Except.ok (funext fun k => ?_)
      rw [Table.find?_overlay, Table.find?_mapValues]

-----------------------------------------------------------------------------------------
-- Records with the same values
-----------------------------------------------------------------------------------------

theorem entries_perm (same : ∀ p, s.get? p = r.get? p) : r.values.entries.Perm s.values.entries :=
  (Table.find?_eq_iff_perm.mp same).symm

theorem issuesOf_of_same (same : ∀ p, s.get? p = r.get? p)
    : (issuesOf registry module strict r).Perm (issuesOf registry module strict s) :=
  (issuesOf_perm registry module strict r).trans
    (((entries_perm same).filterMap _).trans (issuesOf_perm registry module strict s).symm)

theorem comparable_of_same (same : ∀ p, s.get? p = r.get? p)
    : Comparable registry module s ↔ Comparable registry module r := by
  have overrides := (entries_perm same).filterMap Path.module.inside?
  rw [Comparable, Comparable, Record.below_entries, Record.below_entries]
  exact forall_congr' fun override => imp_congr_left overrides.symm.mem_iff

/-- Records with the same values configure alike algorithms. -/
theorem configured_of_same (same : ∀ p, s.get? p = r.get? p)
    (clear : Clear registry module strict r) (clear' : Clear registry module strict s)
    : Alike (configured registry module strict fallback source r)
        (configured registry module strict fallback source s) := by
  have parameters (k : Path)
      : (configured registry module strict fallback source s).parameters.find? k
        = (configured registry module strict fallback source r).parameters.find? k := by
    rw [configured_find? clear, configured_find? clear', same]
  refine ⟨?_, rfl, parameters, fun k => ?_, ?_⟩
  · rw [configured, configured, nameOf, nameOf, recordName_congr (same Path.name)]
  · rw [configured, configured, Record.find?_below, Record.find?_below, same]
  · rw [effective_find?, effective_find?, funext parameters]
    rfl

/-- Records with the same values have the same outcome. -/
theorem ofRecord_of_same (same : ∀ p, s.get? p = r.get? p)
    : SameOutcome (ofRecord registry strict fallback source r).outcome
        (ofRecord registry strict fallback source s).outcome := by
  have sameModule : moduleOf registry source s = moduleOf registry source r :=
    moduleOf_congr (same Path.module)
  cases found : moduleOf registry source r with
  | error failure =>
      rw [ofRecord_of_noModule found, ofRecord_of_noModule (sameModule.trans found)]
      exact .failed failure
  | ok module =>
      have found' := sameModule.trans found
      have issues : (issuesOf registry module strict r).Perm (issuesOf registry module strict s) :=
        issuesOf_of_same same
      rcases ofRecord_outcome found with ⟨comparable, ends⟩ | ⟨stuck, ends⟩
      · have comparable' := (comparable_of_same same).mpr comparable
        rcases ofRecord_outcome found' with ⟨_, ends'⟩ | ⟨stuck', _⟩
        · rw [ends, ends']
          by_cases clear : issuesOf registry module strict r = []
          · have clear' : issuesOf registry module strict s = [] := (clear ▸ issues).nil_eq.symm
            rw [if_pos clear, if_pos clear']
            exact .configured
              (configured_of_same same ⟨comparable, clear⟩ ⟨comparable', clear'⟩)
          · have clear' : issuesOf registry module strict s ≠ [] :=
              fun none => clear (none ▸ issues).eq_nil
            rw [if_neg clear, if_neg clear']
            exact .refused issues
        · exact absurd comparable' stuck'
      · rcases ofRecord_outcome found' with ⟨comparable', _⟩ | ⟨_, ends'⟩
        · exact absurd ((comparable_of_same same).mp comparable') stuck
        · rw [ends, ends']
          exact .failed .incomparable

-----------------------------------------------------------------------------------------
-- Reordered assignments
-----------------------------------------------------------------------------------------

/-- Of a list of assignments those to different paths may be made in any order, as long as those to
the same path are not: the record assigns equal values at the same paths, and for every registry and
either way of validation it configures an alike algorithm, is refused with the same issues in some
order, or fails in the same way.
-/
theorem ofRecord_reorders {assignments others : List (Path × Value)}
    (reorders : Record.Reorders assignments others)
    : (∀ p, (Record.ofList others).get? p = (Record.ofList assignments).get? p)
      ∧ (Record.ofList assignments).equals (Record.ofList others) = true
      ∧ ∀ registry strict fallback source,
          SameOutcome (ofRecord registry strict fallback source (Record.ofList assignments)).outcome
            (ofRecord registry strict fallback source (Record.ofList others)).outcome :=
  ⟨reorders.get?_ofList, Table.sameEntries_of_find? Value.equals_refl reorders.get?_ofList,
    fun _ _ _ _ => ofRecord_of_same reorders.get?_ofList⟩

/-- Two unknown paths, one of them assigned twice, before and behind the module: they are reported
in another order, and ignored where validation is lenient.
-/
theorem ofRecord_reorders_two_paths
    : let m : Reference := ⟨"M", isComponentName_m⟩
      let registry := Registry.empty.insert (plainModule m)
      let shape : Path := ⟨"shape", by decide⟩
      let size : Path := ⟨"size", by decide⟩
      let r := Record.ofList
        [(Path.module, .reference m), (shape, .int 1), (size, .int 2), (shape, .int 3)]
      let s := Record.ofList
        [(size, .int 2), (shape, .int 1), (shape, .int 3), (Path.module, .reference m)]
      r.equals s = true
        ∧ s.get? shape = some (.int 3)
        ∧ SameOutcome
            (.error (.problem
              (.invalid [.unknownPath "shape" none, .unknownPath "size" none] none)))
            (.error (.problem
              (.invalid [.unknownPath "size" none, .unknownPath "shape" none] none)))
        ∧ ∃ a b,
            (ofRecord registry false none none r).outcome = .ok a
            ∧ (ofRecord registry false none none s).outcome = .ok b
            ∧ SameOutcome (.ok a) (.ok b) := by
  intro m registry shape size r s
  have reorders : Record.Reorders
      [(Path.module, .reference m), (shape, .int 1), (size, .int 2), (shape, .int 3)]
      [(size, .int 2), (shape, .int 1), (shape, .int 3), (Path.module, .reference m)] := by
    intro p
    by_cases module : Path.module = p
    · subst module
      rfl
    · by_cases first : shape = p
      · subst first
        rfl
      · by_cases second : size = p
        · subst second
          rfl
        · simp [module, first, second]
  obtain ⟨values, equal, outcomes⟩ := ofRecord_reorders reorders
  exact ⟨equal, (values shape).trans rfl, outcomes registry true none none,
    _, _, rfl, rfl, outcomes registry false none none⟩

end Algorithm

end Recommender
