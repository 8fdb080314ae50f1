import Recommender.Proofs.Algorithm.Outcome
import Recommender.Proofs.Component.Resolution
import Recommender.Proofs.Record.Assignments
import Recommender.Proofs.Table.Overlay

/-! What an accepted record shows. The overrides of an algorithm always make a record again, so its
parameters in effect fail to be shown for one reason alone: the default of a component parameter
that is no component name. Nothing checks a default before it is shown.
-/

namespace Recommender

-----------------------------------------------------------------------------------------
-- Defaults
-----------------------------------------------------------------------------------------

namespace Parameter

/-- Whether a default can be shown: for a component parameter it has to be missing, a reference or a
component name.
-/
def showsDefault (p : Parameter) : Bool :=
  match p.type, p.default with
  | .scalar _, _ => true
  | .component _, .missing => true
  | .component _, .reference _ => true
  | .component _, .text t => t.isComponentName
  | .component _, _ => false

/-- A default gives a value when it can be shown, and is no component name otherwise. -/
theorem defaultValue_cases (p : Parameter)
    : (p.showsDefault = true ∧ ∃ value, p.defaultValue = .ok value)
      ∨ (p.showsDefault = false
        ∧ p.hasDefault = true
        ∧ p.defaultValue = .error (.invalidName p.default)) := by
  obtain ⟨path, type, default, minimum, description⟩ := p
  cases type with
  | scalar kind => cases default <;> exact .inl ⟨rfl, _, rfl⟩
  | component kind =>
      cases default with
      | missing | reference => exact .inl ⟨rfl, _, rfl⟩
      | bool | int | float | list | map => exact .inr ⟨rfl, rfl, rfl⟩
      | text t =>
          by_cases named : t.isComponentName = true
          · refine .inl ⟨named, .reference ⟨t, named⟩, ?_⟩
            simp [defaultValue, Reference.ofDatum, Reference.ofText?, named, Except.map]
          · refine .inr ⟨by simpa [showsDefault] using named, rfl, ?_⟩
            simp [defaultValue, Reference.ofDatum, Reference.ofText?, named, Except.map]

end Parameter

namespace Component

/-- The defaults of parameters come to a list exactly up to the first that cannot be shown, by list
induction.
-/
theorem defaultEntries_cases (parameters : List Parameter)
    : let entries := (parameters.filter Parameter.hasDefault).mapM fun p => do
        return (p.path, ← p.defaultValue)
      (parameters.find? (!·.showsDefault) = none ∧ ∃ shown, entries = Except.ok shown)
      ∨ ∃ p,
          parameters.find? (!·.showsDefault) = some p
          ∧ entries = Except.error (.invalidName p.default) := by
  induction parameters with
  | nil => exact .inl ⟨rfl, _, rfl⟩
  | cons p rest ih =>
      dsimp only at ih ⊢
      rw [List.filter_cons, List.find?_cons]
      rcases p.defaultValue_cases with ⟨shown, value, made⟩ | ⟨misnamed, given, failed⟩
      · rw [shown]
        by_cases given : p.hasDefault = true
        · rw [if_pos given, List.mapM_cons, made]
          rcases ih with ⟨others, entries, later⟩ | ⟨q, first, later⟩
          · exact .inl ⟨others, _, by rw [later]; rfl⟩
          · exact .inr ⟨q, first, by rw [later]; rfl⟩
        · rw [if_neg given]
          exact ih
      · rw [misnamed, if_pos given, List.mapM_cons, failed]
        exact .inr ⟨p, rfl, rfl⟩

/-- The defaults of a component fail at the first that cannot be shown. -/
theorem defaults_cases (c : Component)
    : ((∀ p ∈ c.parameters, p.showsDefault = true) ∧ ∃ table, c.defaults = .ok table)
      ∨ ∃ p,
          c.parameters.find? (!·.showsDefault) = some p
          ∧ c.defaults = .error (.invalidName p.default) := by
  rw [defaults]
  rcases defaultEntries_cases c.parameters with ⟨shown, entries, made⟩ | ⟨p, first, failed⟩
  · refine .inl ⟨by simpa using shown, ?_⟩
    rw [made]
    exact ⟨_, rfl⟩
  · refine .inr ⟨p, first, ?_⟩
    rw [failed]
    rfl

end Component

-----------------------------------------------------------------------------------------
-- Overrides as a record
-----------------------------------------------------------------------------------------

namespace Algorithm

/-- The parameters in effect step by step: the overrides are assigned to a record without any, each
with all checks of an assignment, the defaults are made, and the record is laid over them.
-/
def effectiveSteps (a : Algorithm) : Except Failure (Table Text Datum) := do
  let given := a.parameters.entries.map fun (path, value) => (.text path.text, value.toDatum)
  let overrides ← (Record.empty.update given).toExcept
  let defaults ← a.module.defaults
  return overrides.applyTo defaults.byText

/-- No check of the overrides can fail, so the steps come to the parameters in effect. -/
theorem effectiveSteps_eq (a : Algorithm) : a.effectiveSteps = a.effective.map Table.byText := by
  rw [effectiveSteps, effective]
  dsimp only
  rw [Record.update_toDatum, Record.assignAll_empty]
  cases a.module.defaults with
  | error failure => rfl
  | ok defaults =>
      refine congrArg Except.ok ?_
      rw [Record.applyTo, Record.ofList_eq, Table.ofList_entries, Table.overlay,
        Table.byText_putAll, Table.mapValues, List.map_map]
      rfl

-----------------------------------------------------------------------------------------
-- What is shown
-----------------------------------------------------------------------------------------

/-- Whatever is asked of an algorithm is answered: its parameters in effect, the one at any path,
and its summary.
-/
structure Shows (a : Algorithm) : Prop where
  effective : ∃ table, a.effective = .ok table
  parameter (path : Text) (fallback : Datum) : ∃ value, a.parameter path fallback = .ok value
  summary : ∃ fields, a.summary = .ok fields

/-- Whatever is asked of an algorithm fails in one way. -/
structure FailsToShow (a : Algorithm) (failure : Failure) : Prop where
  effective : a.effective = .error failure
  parameter (path : Text) (fallback : Datum) : a.parameter path fallback = .error failure
  summary : a.summary = .error failure

/-- An algorithm is shown when all defaults of its module can be, and else fails at the first that
cannot.
-/
theorem shows_cases (a : Algorithm)
    : ((∀ p ∈ a.module.parameters, p.showsDefault = true) ∧ a.Shows)
      ∨ ∃ p,
          a.module.parameters.find? (!·.showsDefault) = some p
          ∧ a.FailsToShow (.invalidName p.default) := by
  rcases a.module.defaults_cases with ⟨shown, defaults, made⟩ | ⟨p, first, failed⟩
  · obtain ⟨table, effective⟩ : ∃ table, a.effective = .ok table :=
      ⟨_, by rw [Algorithm.effective, made]; rfl⟩
    exact .inl ⟨shown, ⟨table, effective⟩, fun _ _ => ⟨_, by rw [parameter, effective]; rfl⟩,
      _, by rw [summary, effective]; rfl⟩
  · have effective : a.effective = .error (.invalidName p.default) := by
      rw [Algorithm.effective, failed]
      rfl
    exact .inr ⟨p, first, effective, fun _ _ => by rw [parameter, effective]; rfl,
      by rw [summary, effective]; rfl⟩

theorem Shows.defaults_shown {a : Algorithm} (shows : a.Shows)
    : ∀ p ∈ a.module.parameters, p.showsDefault = true := by
  rcases a.shows_cases with ⟨shown, _⟩ | ⟨p, _, fails⟩
  · exact shown
  · obtain ⟨table, made⟩ := shows.effective
    exact nomatch fails.effective.symm.trans made

theorem shows_of_defaults_shown {a : Algorithm}
    (shown : ∀ p ∈ a.module.parameters, p.showsDefault = true)
    : a.Shows := by
  rcases a.shows_cases with ⟨_, shows⟩ | ⟨p, first, _⟩
  · exact shows
  · have misnamed := List.find?_some first
    rw [shown p (List.mem_of_find?_eq_some first)] at misnamed
    cases misnamed

/-- A record of a registered module alone is accepted. -/
theorem ofRecord_module {registry : Registry} (sound : registry.Sound) {c : Component}
    (listed : c ∈ registry.toList) (isModule : c.kind = .module) (strict : Bool)
    (fallback source : Option Text)
    : let r := Record.ofList [(Path.module, .reference c.reference)]
      (ofRecord registry strict fallback source r).outcome
        = .ok (configured registry c strict fallback source r) := by
  intro r
  have found : moduleOf registry source r = .ok c :=
    moduleOf_eq_ok.mpr
      ⟨c.reference, rfl, Registry.resolve_name (sound.mem_toList.mp listed) _, isModule⟩
  have known : unknownPaths r = [] := rfl
  have nothing : (r.below Path.module).entries = [] := rfl
  refine ofRecord_eq_ok.mpr ⟨c, found, clear_iff.mpr ⟨rfl, ?_, ?_⟩, rfl⟩
  · simp [unknownIssues, known]
  · simp [nothing]

/-- Every record that a registry accepts can be shown exactly when all defaults of its components
can. Where one is not shown the reason is the first default of its module that is no component name,
not the overrides.
-/
theorem shows_iff (actions : List Registry.Action)
    : let registry := Registry.Action.run actions
      ((∀ strict fallback source r a,
          (ofRecord registry strict fallback source r).outcome = .ok a → a.Shows)
        ↔ ∀ c ∈ registry.toList, ∀ p ∈ c.parameters, p.showsDefault = true)
      ∧ ∀ strict fallback source r a,
          (ofRecord registry strict fallback source r).outcome = .ok a
            → a.effectiveSteps = a.effective.map Table.byText
              ∧ (a.Shows
                ∨ ∃ p,
                    a.module.parameters.find? (!·.showsDefault) = some p
                    ∧ a.FailsToShow (.invalidName p.default)) := by
  intro registry
  have sound : registry.Sound := Registry.sound_run actions
  refine ⟨⟨fun shows c listed p declared => ?_, fun named strict fallback source r a made => ?_⟩,
    fun strict fallback source r a _ => ?_⟩
  · have isModule : c.kind = .module := c.declaring.resolve_left (List.ne_nil_of_mem declared)
    have alone := shows true none none _ _ (ofRecord_module sound listed isModule true none none)
    exact alone.defaults_shown p declared
  · obtain ⟨module, found, _, rfl⟩ := ofRecord_eq_ok.mp made
    obtain ⟨_, _, resolved, _⟩ := moduleOf_eq_ok.mp found
    have listed := sound.mem_toList.mpr (sound.registered_of_resolve resolved)
    exact shows_of_defaults_shown (named module listed)
  · exact ⟨a.effectiveSteps_eq, a.shows_cases.imp_left And.right⟩

/-- A module with one parameter, which takes a clamp, and a default for it. -/
def clampedBy (default : Text) : Component where
  reference := ⟨"m.M", by decide⟩
  kind := .module
  aliases := []
  description := []
  parameters := [⟨⟨"clamp", by decide⟩, .component .clamp, .text default, none, []⟩]
  declaring := .inr rfl
  distinct := by simp

/-- A clamp without aliases. -/
def plainClamp : Component :=
  Registry.aliased ⟨"c.C", by decide⟩ []

/-- The registrations of a module with a default and of a clamp. -/
def clampedActions (default : Text) : List Registry.Action :=
  [.register (clampedBy default) false, .register plainClamp false]

/-- A record that overrides the clamp of the module. -/
def clampedRecord : Record :=
  Record.ofList
    [(Path.module, .reference ⟨"m.M", by decide⟩),
      (⟨"module.clamp", by decide⟩, .reference ⟨"c.C", by decide⟩)]

/-- Where the default is the name of the clamp, what is accepted is shown. -/
theorem shows_iff_component_name
    : ∃ a,
        (ofRecord (Registry.Action.run (clampedActions "c.C")) true none none clampedRecord).outcome
          = .ok a
        ∧ a.Shows := by
  have named : ∀ c ∈ (Registry.Action.run (clampedActions "c.C")).toList,
      ∀ p ∈ c.parameters, p.showsDefault = true := by
    decide
  exact ⟨_, rfl, (shows_iff (clampedActions "c.C")).1.mpr named true none none clampedRecord _ rfl⟩

theorem isComponentName_spaced : ("not a name" : Text).isComponentName = false := by
  decide +kernel

/-- Not everything that is accepted is shown: the checks of components let a default pass that is no
component name, and the override in its place does not help.
-/
theorem shows_misnamed_default
    : ∃ a,
        Component.check true
            (.map [("name", .text "m.M"), ("kind", .text "module"),
              ("parameters",
                .list [.map [("path", .text "clamp"), ("kind", .text "component"),
                  ("component_kind", .text "clamp"), ("default", .text "not a name")]])])
          = .ok (clampedBy "not a name")
        ∧ Component.check true (.map [("name", .text "c.C"), ("kind", .text "clamp")])
          = .ok plainClamp
        ∧ (ofRecord (Registry.Action.run (clampedActions "not a name")) true none none
              clampedRecord).outcome
          = .ok a
        ∧ a.effective = .error (.invalidName (.text "not a name"))
        ∧ ¬ a.Shows := by
  refine ⟨configured _ (clampedBy "not a name") true none none _, rfl, rfl, rfl, ?_,
    fun shows => ?_⟩
  · rcases shows_cases (configured _ (clampedBy "not a name") true none none clampedRecord) with
      ⟨shown, _⟩ | ⟨p, first, fails⟩
    · exact nomatch (shown _ List.mem_cons_self).symm.trans isComponentName_spaced
    · obtain rfl := List.mem_singleton.mp (List.mem_of_find?_eq_some first)
      exact fails.effective
  · exact nomatch (shows.defaults_shown _ List.mem_cons_self).symm.trans isComponentName_spaced

end Algorithm

end Recommender
