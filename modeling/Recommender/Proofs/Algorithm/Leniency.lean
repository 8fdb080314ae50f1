import Mathlib.Data.List.Basic
import Recommender.Proofs.Algorithm.Coercion
import Recommender.Proofs.Algorithm.Outcome

/-! Strict and lenient validation differ in unknown paths alone. The issues of lenient validation
are those of strict validation without the unknown paths, so what one accepts the other accepts
alike, and what only unknown paths keep from being strict is passed through.
-/

namespace Recommender

/-- Whether an issue is about a path that is not known. -/
def Issue.isUnknownPath : Issue → Bool
  | .unknownPath .. => true
  | _ => false

namespace Algorithm

open Validation

variable {registry : Registry} {module : Component} {fallback source : Option Text} {r : Record}

-----------------------------------------------------------------------------------------
-- Issues
-----------------------------------------------------------------------------------------

/-- No parameter refuses a value for its path. -/
theorem not_isUnknownPath_of_coerce {p : Parameter} {d : Datum} {issue : Issue}
    (refused : p.coerce registry d = .error (.issue issue))
    : issue.isUnknownPath = false := by
  cases Parameter.refuses_of_coerce refused with
  | mismatch expected value => rfl
  | unresolved _ unfound =>
      rcases Registry.resolve_error unfound with rfl | ⟨candidates, rfl⟩ <;> rfl

/-- Lenient validation leaves an override the issue it has, unless that is about its path. -/
theorem overrideIssue?_lenient (registry : Registry) (module : Component) (override : Path × Value)
    : overrideIssue? .record registry module false override
      = (overrideIssue? .record registry module true override).filter (!·.isUnknownPath) := by
  cases declared : module.parameter? (OverrideView.record.path override.1) with
  | none =>
      simp only [overrideIssue?, declared]
      rfl
  | some p =>
      cases coerced : p.coerce registry (OverrideView.record.datum override.2) with
      | ok value => simp [overrideIssue?, declared, coerced]
      | error rejection =>
          cases rejection with
          | incomparable => simp [overrideIssue?, declared, coerced]
          | issue single =>
              have other := not_isUnknownPath_of_coerce coerced
              simp only [overrideIssue?, declared, coerced, Option.filter_some, other,
                Bool.not_false, if_true]

/-- Lenient validation leaves a record its issues but for those about its paths, in their order. -/
theorem issuesOf_lenient (registry : Registry) (module : Component) (r : Record)
    : issuesOf registry module false r
      = (issuesOf registry module true r).filter (!·.isUnknownPath) := by
  have name : (nameIssues r).filter (!·.isUnknownPath) = nameIssues r := by
    rw [nameIssues_eq, List.filter_filterMap]
    congr 1
    funext entry
    rw [nameIssue?]
    split
    · cases value : entry.2 with
      | text t => by_cases blank : t.isBlank <;> simp [nameFault?, blank, Issue.isUnknownPath]
      | reference | bool | int | float => simp [nameFault?, Issue.isUnknownPath]
    · rfl
  have unknown : (unknownIssues true r).filter (!·.isUnknownPath) = [] := by
    simp [unknownIssues, Issue.isUnknownPath]
  have overrides : ((r.below Path.module).entries.filterMap
          (overrideIssue? .record registry module true)).filter (!·.isUnknownPath)
        = (r.below Path.module).entries.filterMap
            (overrideIssue? .record registry module false) := by
    rw [List.filter_filterMap, funext (overrideIssue?_lenient registry module)]
  rw [issuesOf_eq, issuesOf_eq, List.filter_append, List.filter_append, name, unknown, overrides]
  rfl

/-- What strict validation accepts lenient validation has nothing against. -/
theorem Clear.lenient (clear : Clear registry module true r) : Clear registry module false r := by
  refine ⟨clear.comparable, ?_⟩
  rw [issuesOf_lenient, clear.noIssues]
  rfl

-----------------------------------------------------------------------------------------
-- Values
-----------------------------------------------------------------------------------------

/-- Where validation is strict, a value is kept for declared paths alone, and it is the one that is
kept where validation is lenient.
-/
theorem keptValue?_strict {override : Path × Value} {value : Value}
    (kept : keptValue? .record registry module true override = some value)
    : (module.parameter? override.1.text).isSome = true
      ∧ keptValue? .record registry module false override = some value := by
  rcases keptValue?_eq_some.mp kept with ⟨_, lenient, _⟩ | ⟨p, coerced, declared, made, same⟩
  · cases lenient
  · exact ⟨Option.isSome_iff_exists.mpr ⟨p, declared⟩,
      keptValue?_eq_some.mpr (.inr ⟨p, coerced, declared, made, same⟩)⟩

/-- A record that strict validation accepts configures the same where validation is lenient. -/
theorem configured_lenient (clear : Clear registry module true r)
    : configured registry module false fallback source r
      = configured registry module true fallback source r := by
  obtain ⟨_, _, kept⟩ := clear_iff.mp clear
  have parameters : (configured registry module false fallback source r).parameters
      = (configured registry module true fallback source r).parameters := by
    refine Table.eq_of_entries ?_
    rw [configured_entries clear.lenient, configured_entries clear]
    refine List.filterMap_congr fun override member => ?_
    obtain ⟨value, same⟩ := Option.isSome_iff_exists.mp (kept override member)
    rw [same, (keptValue?_strict same).2]
  rw [configured, configured, Algorithm.mk.injEq]
  exact ⟨rfl, rfl, parameters, rfl, rfl, rfl⟩

-----------------------------------------------------------------------------------------
-- Hand-overs
-----------------------------------------------------------------------------------------

/-- What strict validation accepts is accepted without a notice where validation is lenient. -/
theorem ofRecord_lenient_of_ok {a : Algorithm}
    (made : (ofRecord registry true fallback source r).outcome = .ok a)
    : ofRecord registry false fallback source r = ⟨[], .ok a⟩ := by
  obtain ⟨module, found, clear, rfl⟩ := ofRecord_eq_ok.mp made
  obtain ⟨_, known, kept⟩ := clear_iff.mp clear
  have outcome : (ofRecord registry false fallback source r).outcome
      = .ok (configured registry module true fallback source r) :=
    ofRecord_eq_ok.mpr ⟨module, found, clear.lenient, configured_lenient clear⟩
  have allKnown : unknownPaths r = [] := by simpa [unknownIssues] using known
  have declared : ∀ override ∈ (r.below Path.module).entries,
      (module.parameter? override.1.text).isSome = true := by
    intro override member
    obtain ⟨value, same⟩ := Option.isSome_iff_exists.mp (kept override member)
    exact (keptValue?_strict same).1
  have notices : (ofRecord registry false fallback source r).notices = [] := by
    rw [ofRecord_notices found, allKnown, examine_notices_of_declared declared]
    rfl
  rw [← notices, ← outcome]

/-- What strict validation refuses lenient validation refuses with the issues that are not about
unknown paths, and accepts where there are none.
-/
theorem ofRecord_lenient_of_refused (found : moduleOf registry source r = .ok module)
    (comparable : Comparable registry module r)
    : (ofRecord registry false fallback source r).outcome
      = if (issuesOf registry module true r).filter (!·.isUnknownPath) = [] then
          .ok (configured registry module false fallback source r)
        else
          .error (.problem
            (.invalid ((issuesOf registry module true r).filter (!·.isUnknownPath)) source)) := by
  rcases ofRecord_outcome found with ⟨_, ends⟩ | ⟨stuck, _⟩
  · rw [ends, issuesOf_lenient]
  · exact absurd comparable stuck

/-- What strict validation accepts, lenient validation accepts as the same algorithm and without a
notice. What strict validation refuses with issues, lenient validation refuses with those of them
that are not about unknown paths, in their order; and if all of them are, it accepts the record,
with an override for each path below the module, in the order of the record: where the module
declares the path the value that the parameter makes, and where it does not the value as it was
given.
-/
theorem ofRecord_lenient (registry : Registry) (fallback source : Option Text) (r : Record)
    : (∀ a,
        (ofRecord registry true fallback source r).outcome = .ok a
          → ofRecord registry false fallback source r = ⟨[], .ok a⟩)
      ∧ ∀ issues named,
          (ofRecord registry true fallback source r).outcome
              = .error (.problem (.invalid issues named))
            → ((∃ issue ∈ issues, issue.isUnknownPath = false)
                → (ofRecord registry false fallback source r).outcome
                  = .error (.problem (.invalid (issues.filter (!·.isUnknownPath)) named)))
              ∧ ((∀ issue ∈ issues, issue.isUnknownPath = true)
                → ∃ a,
                    (ofRecord registry false fallback source r).outcome = .ok a
                    ∧ moduleOf registry source r = .ok a.module
                    ∧ a.parameters.keys.map Path.module.extend
                      = (r.paths.filter fun p => (Path.module.below? p).isSome)
                    ∧ ∀ k given,
                        r.get? (Path.module.extend k) = some given
                          → ∃ value,
                              a.parameters.find? k = some value
                              ∧ ((a.module.parameter? k.text = none ∧ value = given)
                                ∨ ∃ p,
                                    a.module.parameter? k.text = some p
                                    ∧ p.coerce registry given.toDatum = .ok value)) := by
  refine ⟨fun a => ofRecord_lenient_of_ok, fun issues named refused => ?_⟩
  cases found : moduleOf registry source r with
  | error failure =>
      -- nothing is looked at but the module, in both ways of validation
      rw [ofRecord_of_noModule found] at refused ⊢
      obtain rfl : failure = .problem (.invalid issues named) := Except.error.inj refused
      rcases moduleOf_error found with unusable | ⟨issue, single⟩ | ⟨value, mismatch⟩
      · cases unusable
      · cases single
      · cases mismatch
        exact ⟨fun _ => rfl, fun unknown => Bool.noConfusion (unknown _ List.mem_cons_self)⟩
  | ok module =>
      obtain ⟨comparable, _, rfl, rfl⟩ := (ofRecord_eq_invalid found).mp refused
      rw [ofRecord_lenient_of_refused found comparable]
      constructor
      · rintro ⟨issue, member, other⟩
        rw [if_neg]
        exact List.ne_nil_of_mem (List.mem_filter.mpr ⟨member, by rw [other]; rfl⟩)
      · intro unknown
        have none : (issuesOf registry module true r).filter (!·.isUnknownPath) = [] := by
          simpa using unknown
        have clear : Clear registry module false r :=
          ⟨comparable, by rw [issuesOf_lenient, none]⟩
        refine ⟨_, if_pos none, rfl, configured_extend clear, fun k given assigned => ?_⟩
        have member : (k, given) ∈ (r.below Path.module).entries := by
          rwa [← Table.find?_eq_some, Record.find?_below]
        obtain ⟨value, kept⟩ := Option.isSome_iff_exists.mp ((clear_iff.mp clear).2.2 _ member)
        refine ⟨value, by rw [configured_find? clear, assigned, Option.bind_some, kept], ?_⟩
        rcases keptValue?_eq_some.mp kept with ⟨undeclared, _, same⟩ | ⟨p, _, declared, made, rfl⟩
        · exact .inl ⟨undeclared, same.symm⟩
        · exact .inr ⟨p, declared, made⟩

/-- A module alone is accepted alike; a truth value as name is reported without the unknown paths
beside it; and the unknown paths alone are passed through.
-/
theorem ofRecord_lenient_three_records
    : let m : Reference := ⟨"M", isComponentName_m⟩
      let registry := Registry.empty.insert (plainModule m)
      let plain := Record.ofList [(Path.module, .reference m)]
      let undeclared : List (Path × Value) :=
        [(Path.module, .reference m), (⟨"module.k", by decide⟩, .int 2),
          (⟨"shape", by decide⟩, .int 1)]
      let unnamed := Record.ofList (undeclared ++ [(Path.name, .bool true)])
      (∃ a,
          (ofRecord registry true none none plain).outcome = .ok a
          ∧ ofRecord registry false none none plain = ⟨[], .ok a⟩)
        ∧ (ofRecord registry false none none unnamed).outcome
          = .error (.problem (.invalid [.mismatch "name" .nonEmptyName (.bool true)] none))
        ∧ ∃ a,
            (ofRecord registry false none none (Record.ofList undeclared)).outcome = .ok a
            ∧ a.parameters.find? ⟨"k", by decide⟩ = some (.int 2) := by
  intro m registry plain undeclared unnamed
  refine ⟨⟨_, rfl, (ofRecord_lenient registry none none plain).1 _ rfl⟩, ?_, ?_⟩
  · refine (((ofRecord_lenient registry none none unnamed).2
      [.mismatch "name" .nonEmptyName (.bool true), .unknownPath "shape" none,
        .unknownPath "module.k" (some "M")] none rfl).1 ?_).trans rfl
    exact ⟨_, List.mem_cons_self, rfl⟩
  · have only : ∀ issue ∈ [Issue.unknownPath "shape" none, .unknownPath "module.k" (some "M")],
        issue.isUnknownPath = true := by
      simp [Issue.isUnknownPath]
    obtain ⟨a, accepted, _, _, values⟩ :=
      ((ofRecord_lenient registry none none (Record.ofList undeclared)).2 _ none rfl).2 only
    obtain ⟨value, found, ⟨_, rfl⟩ | ⟨p, declared, _⟩⟩ := values ⟨"k", by decide⟩ (.int 2) rfl
    · exact ⟨a, accepted, found⟩
    · cases accepted
      cases declared

end Algorithm

end Recommender
