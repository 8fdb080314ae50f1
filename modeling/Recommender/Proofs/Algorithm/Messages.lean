import Recommender.Proofs.Algorithm.Coercion
import Recommender.Proofs.Algorithm.Outcome
import Recommender.Proofs.Script.Outcome
import Recommender.Proofs.Text.Encodable

/-! What is said about a script has an encoding, whatever the script is. Messages show its texts in
quotes; what else they repeat are the names of components and the source of the script.
-/

namespace Recommender

-----------------------------------------------------------------------------------------
-- Words
-----------------------------------------------------------------------------------------

@[simp]
theorem ComponentKind.encodable (kind : ComponentKind) : kind.text.Encodable := by
  cases kind <;> exact Text.encodable_ofString _

@[simp]
theorem ScalarKind.encodable (kind : ScalarKind) : kind.text.Encodable := by
  cases kind <;> exact Text.encodable_ofString _

@[simp]
theorem Component.encodable (c : Component) : c.name.Encodable :=
  c.reference.encodable

@[simp]
theorem Expectation.encodable (expected : Expectation) : expected.text.Encodable := by
  cases expected <;> simp [text]

@[simp]
theorem ScriptFault.encodable (fault : ScriptFault) : fault.message.Encodable := by
  cases fault <;> simp [message]

@[simp]
theorem Problem.encodable_label (p : Problem) : p.label.Encodable := by
  cases p with
  | issue single => cases single <;> exact Text.encodable_ofString _
  | invalidPath | frozen | script | invalid | unusable | unreadableCatalog | invalidCatalog =>
      exact Text.encodable_ofString _

@[simp]
theorem encodable_sourceLead {source : Text} (named : source.Encodable)
    : (sourceLead (some source)).Encodable := by
  cases source with
  | nil => exact Text.encodable_nil
  | cons c rest => exact Text.encodable_append.mpr ⟨named, Text.encodable_ofString _⟩

@[simp]
theorem encodable_scriptSourceText {source : Text} (named : source.Encodable)
    : (scriptSourceText (some source)).Encodable := by
  cases source with
  | nil => exact Text.encodable_ofString _
  | cons c rest => exact named

-----------------------------------------------------------------------------------------
-- Issues
-----------------------------------------------------------------------------------------

namespace Issue

@[simp]
theorem encodable_mismatch (path : Text) (expected : Expectation) (value : Datum)
    : (mismatch path expected value).message.Encodable := by
  simp [message]

@[simp]
theorem encodable_unknownPath (path : Text) : (unknownPath path none).message.Encodable := by
  simp [message]

@[simp]
theorem encodable_unknownPath_of (path : Text) (c : Component)
    : (unknownPath path (some c.name)).message.Encodable := by
  rw [message]
  split <;> simp

end Issue

/-- A reference that stands for nothing: its name is one of a component, and so are the names that
it could be short for.
-/
theorem Registry.encodable_of_resolve {registry : Registry} {reference : Reference}
    {kind : Option ComponentKind} {issue : Issue}
    (refused : registry.resolve reference.name kind = .error issue)
    : issue.message.Encodable := by
  have unresolved : (Issue.unresolved reference.name kind).message.Encodable := by
    cases kind <;> simp [Issue.message]
  rw [resolve] at refused
  split at refused
  · cases refused
  · split at refused
    · cases refused
      exact unresolved
    · split at refused
      · cases refused
        exact unresolved
      · cases refused
      · cases refused
        simp [Issue.message, Text.encodable_join]

/-- A value that a parameter refuses. -/
theorem Parameter.encodable_of_coerce {registry : Registry} {p : Parameter} {v : Value}
    {single : Issue} (refused : p.coerce registry v.toDatum = .error (.issue single))
    : single.message.Encodable := by
  cases refuses_of_coerce refused with
  | mismatch expected value => exact Issue.encodable_mismatch _ _ _
  | unresolved type _ =>
      rw [coerce_component type] at refused
      cases v with
      | reference r =>
          simp only [Value.toDatum, coerceComponent] at refused
          split at refused
          · next found =>
              cases refused
              exact Registry.encodable_of_resolve found
          · split at refused
            · cases refused
            · cases refused
              exact Issue.encodable_mismatch _ _ _
      | bool | int | float | text =>
          cases refused
          exact Issue.encodable_mismatch _ _ _

namespace Algorithm

variable {registry : Registry} {module : Component} {strict : Bool} {r : Record}

theorem encodable_overrideIssue? {override : Path × Value} {issue : Issue}
    (wrong : Validation.overrideIssue? .record registry module strict override = some issue)
    : issue.message.Encodable := by
  rw [Validation.overrideIssue?] at wrong
  split at wrong
  · split at wrong
    · cases wrong
      exact Issue.encodable_unknownPath_of _ _
    · cases wrong
  · split at wrong
    · next refused =>
        cases wrong
        exact Parameter.encodable_of_coerce refused
    · cases wrong

/-- The issues of a record: its name, its unknown paths, its overrides. -/
theorem encodable_issuesOf {issue : Issue} (member : issue ∈ issuesOf registry module strict r)
    : issue.message.Encodable := by
  rw [issuesOf_eq, List.mem_append, List.mem_append] at member
  rcases member with named | unknown | override
  · rw [nameIssues] at named
    split at named
    · cases named
    · next refused =>
        rw [recordName] at refused
        obtain rfl := List.mem_singleton.mp named
        split at refused
        · cases refused
        · split at refused <;> cases refused
          exact Issue.encodable_mismatch _ _ _
        · cases refused
          exact Issue.encodable_mismatch _ _ _
  · rw [unknownIssues] at unknown
    split at unknown
    · obtain ⟨path, _, rfl⟩ := List.mem_map.mp unknown
      exact Issue.encodable_unknownPath _
    · cases unknown
  · obtain ⟨_, _, wrong⟩ := List.mem_filterMap.mp override
    exact encodable_overrideIssue? wrong

/-- A module that is not found. -/
theorem encodable_of_moduleOf {source : Text} (named : source.Encodable) {failure : Failure}
    (missing : moduleOf registry (some source) r = .error failure)
    : ∃ p, failure = .problem p ∧ ∀ t ∈ p.parts, t.Encodable := by
  rw [moduleOf] at missing
  split at missing
  · cases missing
    refine ⟨_, rfl, ?_⟩
    simp [Problem.parts, Problem.message, Unusable.message, named]
  · split at missing
    · next refused =>
        cases missing
        refine ⟨_, rfl, ?_⟩
        simpa [Problem.parts, Problem.message] using Registry.encodable_of_resolve refused
    · split at missing
      · cases missing
      · cases missing
        exact ⟨_, rfl, by simp [Problem.parts]⟩
  · cases missing
    exact ⟨_, rfl, by simp [Problem.parts]⟩

end Algorithm

/-- A fault of a script. -/
theorem Script.encodable_fault {source : Text} (named : source.Encodable) (fault : ScriptFault)
    (line : Int) (text : Text)
    : ∀ t ∈ (Problem.script fault (some source) line text).parts, t.Encodable := by
  simp [Problem.parts, Problem.message, named]

end Recommender
