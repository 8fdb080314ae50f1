import Recommender.Proofs.Algorithm.Outcome
import Recommender.Proofs.Notice
import Recommender.Proofs.Service.Listing
import Recommender.Proofs.Text.Classes

/-! Names of algorithms. The name that a record gives is checked for content. What stands in for it,
a name from the caller or the file or else the first alias of the module, is taken as it is; so an
algorithm has a blank name exactly where the record gives none and a blank name stands in.
-/

namespace Recommender

-----------------------------------------------------------------------------------------
-- Names of components
-----------------------------------------------------------------------------------------

/-- The short name of a component has content. -/
theorem Reference.isBlank_shortName (r : Reference) : r.shortName.isBlank = false := by
  have segments := Text.splitOn_ne_nil CodePoint.dot r.name
  rw [shortName, List.getLast?_eq_some_getLast segments, Option.getD_some]
  have last := List.getLast_mem segments
  generalize (Text.splitOn CodePoint.dot r.name).getLast segments = segment at last
  have named := List.all_eq_true.mp r.valid segment last
  cases segment with
  | nil => cases named
  | cons first rest =>
      simp only [Text.isNameSegment, CodePoint.beginsName, Bool.and_eq_true, Bool.or_eq_true,
        decide_eq_true_eq] at named
      have bare : first.isBare = true := by
        rcases named.1 with begins | rfl
        · exact CodePoint.isBare_of_beginsIdentifier begins
        · simp [CodePoint.isBare, CodePoint.continuesName]
      rw [Text.isBlank, List.all_cons, (CodePoint.isBare_apart bare).1, Bool.false_and]

/-- A component is displayed by a blank name exactly if that is its first alias. -/
theorem Component.isBlank_displayName (c : Component)
    : c.displayName.isBlank = true
      ↔ ∃ first others, c.aliases = first :: others ∧ first.isBlank = true := by
  rw [displayName]
  cases c.aliases with
  | nil => simp [shortName, Reference.isBlank_shortName]
  | cons first others => simp

namespace Algorithm

variable {registry : Registry} {module : Component} {strict : Bool} {fallback source : Option Text}
    {r : Record} {a : Algorithm}

-----------------------------------------------------------------------------------------
-- Records
-----------------------------------------------------------------------------------------

/-- What stands in for the name of an algorithm is blank: a name from outside, or the first alias of
its module if there is none.
-/
inductive BlankStandIn (module : Component) : Option Text → Prop where
  | outside {t : Text} (blank : t.isBlank = true) : BlankStandIn module (some t)
  | first {t : Text} {others : List Text} (aliases : module.aliases = t :: others)
      (blank : t.isBlank = true) :
      BlankStandIn module none

theorem isBlank_standIn
    : (fallback.getD module.displayName).isBlank = true ↔ BlankStandIn module fallback := by
  cases fallback with
  | some t =>
      refine ⟨.outside, fun standIn => ?_⟩
      cases standIn with
      | outside blank => exact blank
  | none =>
      rw [Option.getD_none, Component.isBlank_displayName]
      constructor
      · rintro ⟨first, others, aliases, blank⟩
        exact .first aliases blank
      · intro standIn
        cases standIn with
        | first aliases blank => exact ⟨_, _, aliases, blank⟩

/-- A record whose name is in order gives one with content, or gives none, and then a name stands
in.
-/
theorem nameOf_cases (clear : nameIssues r = []) (fallback : Option Text) (module : Component)
    : (∃ t,
        r.get? Path.name = some (.text t)
        ∧ t.isBlank = false
        ∧ nameOf r fallback module = t)
      ∨ (r.get? Path.name = none
        ∧ nameOf r fallback module = fallback.getD module.displayName) := by
  rw [nameIssues, recordName] at clear
  rw [nameOf, recordName]
  cases given : r.get? Path.name with
  | none => exact .inr ⟨rfl, rfl⟩
  | some value =>
      rw [given] at clear
      cases value with
      | text t =>
          cases blank : t.isBlank with
          | true => simp [blank] at clear
          | false => exact .inl ⟨t, rfl, blank, by simp [blank, Except.toOption]⟩
      | reference _ | bool _ | int _ | float _ => cases clear

/-- An algorithm has a blank name exactly if its record gives none and a blank one stands in. -/
theorem isBlank_name_of_ofRecord
    (made : (ofRecord registry strict fallback source r).outcome = .ok a)
    : a.name.isBlank = true ↔ r.get? Path.name = none ∧ BlankStandIn a.module fallback := by
  obtain ⟨module, found, clear, rfl⟩ := ofRecord_eq_ok.mp made
  rw [← isBlank_standIn]
  change (nameOf r fallback module).isBlank = true ↔ _
  rcases nameOf_cases (clear_iff.mp clear).1 fallback module with
    ⟨t, given, content, named⟩ | ⟨none, named⟩
  · simp [named, given, content]
  · rw [named]
    simp [none, configured]

/-- Whether a record configures an algorithm does not depend on the name that stands in. -/
theorem ofRecord_isOk_congr (other : Option Text)
    (made : (ofRecord registry strict fallback source r).outcome = .ok a)
    : ∃ b, (ofRecord registry strict other source r).outcome = .ok b := by
  obtain ⟨module, found, clear, _⟩ := ofRecord_eq_ok.mp made
  exact ⟨_, ofRecord_eq_ok.mpr ⟨module, found, clear, rfl⟩⟩

-----------------------------------------------------------------------------------------
-- Files and scripts
-----------------------------------------------------------------------------------------

/-- An algorithm has a blank name exactly if its record gives none and a blank one stands in: that
of a caller or else the module's first alias for a record by itself and for a script that is sent,
and the base name for a file. A blank one that stands in is never refused: with any other one the
record configures an algorithm as well.
-/
theorem isBlank_name_iff (registry : Registry) (strict : Bool)
    : (∀ fallback source r a,
        (ofRecord registry strict fallback source r).outcome = .ok a
        → (a.name.isBlank = true ↔ r.get? Path.name = none ∧ BlankStandIn a.module fallback)
          ∧ ∀ other, ∃ b, (ofRecord registry strict other source r).outcome = .ok b)
      ∧ (∀ tree settings path a,
        (Loading.algorithm tree settings registry strict path).outcome = .ok a
        → (a.name.isBlank = true
          ↔ path.stem.isBlank = true
            ∧ ∃ r, Loading.record tree settings path = .ok r ∧ r.get? Path.name = none))
      ∧ ∀ settings found script name a,
        (Service.configure ⟨settings, registry, found⟩ script name strict).outcome = .ok a
        → (a.name.isBlank = true
          ↔ BlankStandIn a.module name
            ∧ ∃ r,
                Script.toRecord (some Service.requestSource) settings.rootName script = .ok r
                ∧ r.get? Path.name = none) := by
  refine ⟨fun _ _ _ _ made => ⟨isBlank_name_of_ofRecord made,
    fun other => ofRecord_isOk_congr other made⟩, fun tree settings path a made => ?_,
    fun settings found script name a made => ?_⟩
  · obtain ⟨r, loads, made⟩ := Logged.outcome_bind_eq_ok.mp made
    have read : Loading.record tree settings path = .ok r := loads
    have byStem : BlankStandIn a.module (some path.stem) ↔ path.stem.isBlank = true := by
      rw [← isBlank_standIn, Option.getD_some]
    rw [isBlank_name_of_ofRecord made, read, byStem]
    simp [and_comm]
  · obtain ⟨r, loads, made⟩ := Logged.outcome_bind_eq_ok.mp made
    have read : Script.toRecord (some Service.requestSource) settings.rootName script = .ok r :=
      loads
    rw [isBlank_name_of_ofRecord made, read]
    simp [and_comm]

-----------------------------------------------------------------------------------------
-- A module alone
-----------------------------------------------------------------------------------------

/-- The name of a module. -/
def aloneReference : Reference :=
  ⟨"M", isComponentName_m⟩

/-- A record that names a module and nothing else. -/
def aloneRecord : Record :=
  Record.ofList [(Path.module, .reference aloneReference)]

/-- A tree with a script at a path, which names a module and nothing else. -/
def aloneTree (path : FilePath) : FileTree :=
  ⟨Table.ofList [(path, .file (Service.scriptText.flatMap Utf8.encodeOne))]⟩

/-- A script without a base name. -/
def hiddenScript : FilePath :=
  ⟨.working, [".rec"]⟩

/-- A registry with a module whose first alias is a blank. -/
def blankAliasRegistry : Registry :=
  Registry.empty.insert { plainModule aloneReference with aliases := [" ", "B"] }

theorem algorithm_alone (path : FilePath) {name : Text}
    (script : path.extension ∈ Settings.scriptExtensions) (stem : path.stem = name)
    (stored : (aloneTree path).read path = .ok (Service.scriptText.flatMap Utf8.encodeOne))
    : ∃ a,
        (Loading.algorithm (aloneTree path) Service.someService.settings
            Service.someService.registry true path).outcome
          = .ok a
        ∧ a.name = name := by
  have encoded : Utf8.encode Service.scriptText
      = .ok (Service.scriptText.flatMap Utf8.encodeOne) := rfl
  have read : Loading.record (aloneTree path) Service.someService.settings path
      = .ok aloneRecord := by
    rw [Loading.record_of_stored script encoded stored]
    rfl
  rw [Loading.algorithm, read, stem]
  exact ⟨_, rfl, rfl⟩

/-- The module alone is configured under the name of its file or of the request, and of its own
short name if there is neither.
-/
theorem isBlank_name_iff_alone
    : (∃ a,
        (ofRecord Service.someService.registry true none none aloneRecord).outcome = .ok a
        ∧ a.name.isBlank = false)
      ∧ (∃ a,
        (Loading.algorithm (aloneTree Service.someScript) Service.someService.settings
            Service.someService.registry true Service.someScript).outcome
          = .ok a
        ∧ a.name.isBlank = false)
      ∧ ∃ a,
        (Service.someService.configure Service.scriptText (some "x y") true).outcome = .ok a
        ∧ a.name.isBlank = false := by
  obtain ⟨ofRecords, ofFiles, ofScripts⟩ := isBlank_name_iff Service.someService.registry true
  obtain ⟨a, madeA, plain⟩ : ∃ a,
      (ofRecord Service.someService.registry true none none aloneRecord).outcome = .ok a
      ∧ a.module.aliases = [] := ⟨_, rfl, rfl⟩
  obtain ⟨b, madeB, _⟩ := algorithm_alone Service.someScript (by decide) rfl rfl
  obtain ⟨c, madeC⟩ : ∃ c,
      (Service.someService.configure Service.scriptText (some "x y") true).outcome = .ok c :=
    ⟨_, rfl⟩
  refine ⟨⟨a, madeA, ?_⟩, ⟨b, madeB, ?_⟩, ⟨c, madeC, ?_⟩⟩
  · rw [← Bool.not_eq_true, (ofRecords _ _ _ _ madeA).1]
    rintro ⟨_, standIn⟩
    cases standIn with
    | first aliases => cases plain.symm.trans aliases
  · rw [← Bool.not_eq_true, ofFiles _ _ _ _ madeB]
    rintro ⟨blank, _⟩
    revert blank
    decide
  · rw [← Bool.not_eq_true, ofScripts _ _ _ _ _ madeC]
    rintro ⟨standIn, _⟩
    cases standIn with
    | outside blank =>
        revert blank
        decide

/-- The module alone is configured under a blank name if that is what a caller hands in, what stands
before the extension of its file, what a request asks for, or the first alias of the module; a
record that gives a blank name itself is refused.
-/
theorem isBlank_name_of_standIns
    : (∃ a,
        (ofRecord Service.someService.registry true (some " ") none aloneRecord).outcome = .ok a
        ∧ a.name.isBlank = true)
      ∧ (∃ a,
        (Loading.algorithm (aloneTree hiddenScript) Service.someService.settings
            Service.someService.registry true hiddenScript).outcome
          = .ok a
        ∧ a.name.isBlank = true)
      ∧ (∃ a,
        (Service.someService.configure Service.scriptText (some " ") true).outcome = .ok a
        ∧ a.name.isBlank = true)
      ∧ (∃ a,
        (ofRecord blankAliasRegistry true none none aloneRecord).outcome = .ok a
        ∧ a.name.isBlank = true)
      ∧ (ofRecord Service.someService.registry true none none
          (Record.ofList
            [(Path.name, .text " "), (Path.module, .reference aloneReference)])).outcome
        = .error (.problem (.invalid [.mismatch "name" .nonEmptyName (.text " ")] none)) := by
  obtain ⟨a, made, named⟩ := algorithm_alone hiddenScript (by decide) rfl rfl
  exact ⟨⟨_, rfl, rfl⟩, ⟨a, made, by rw [named]; rfl⟩, ⟨_, rfl, rfl⟩, ⟨_, rfl, rfl⟩, rfl⟩

end Algorithm
end Recommender
