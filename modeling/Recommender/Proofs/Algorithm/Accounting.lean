import Recommender.Algorithm.Basic
import Recommender.Proofs.Algorithm.Overrides
import Recommender.Proofs.Record.Below

/-! Every assignment of a record is accounted for when the record is handed over: it is the name,
the module, an attribute or an override, or it has one issue, and all issues are reported together.
-/

namespace Recommender.Algorithm

open Validation

-----------------------------------------------------------------------------------------
-- Issues of single assignments
-----------------------------------------------------------------------------------------

/-- What is wrong with a value as a name: it is no text, or a blank one. -/
def nameFault? : Value → Option Issue
  | .text t =>
    if t.isBlank then some (.mismatch Path.name.text .nonEmptyName (.text t)) else none
  | v => some (.mismatch Path.name.text .nonEmptyName v.toDatum)

/-- The issue of an assignment to the name. -/
def nameIssue? (entry : Path × Value) : Option Issue :=
  if entry.1 = Path.name then nameFault? entry.2 else none

/-- The issue of an assignment to a path that is neither the name nor the module and lies below
neither the module nor the attributes; there is none where validation is lenient.
-/
def unknownIssue? (strict : Bool) (entry : Path × Value) : Option Issue :=
  if strict = true ∧ entry.1 ≠ Path.name ∧ entry.1 ≠ Path.module
      ∧ (Path.module.below? entry.1).isNone ∧ (Path.attributes.below? entry.1).isNone then
    some (.unknownPath entry.1.text none)
  else none

/-- The issue of an assignment below the module. -/
def moduleIssue? (registry : Registry) (module : Component) (strict : Bool) (entry : Path × Value)
    : Option Issue :=
  (Path.module.inside? entry).bind (overrideIssue? .record registry module strict)

/-- The issue of an assignment, whichever it is. -/
def issueAt? (registry : Registry) (module : Component) (strict : Bool) (entry : Path × Value)
    : Option Issue :=
  (nameIssue? entry).or
    ((unknownIssue? strict entry).or (moduleIssue? registry module strict entry))

/-- The issues of a record: the one of its name, then those of unknown paths, then those below the
module, each in the order of the record.
-/
def issuesOf (registry : Registry) (module : Component) (strict : Bool) (r : Record) : List Issue :=
  r.values.entries.filterMap nameIssue?
    ++ (r.values.entries.filterMap (unknownIssue? strict)
      ++ r.values.entries.filterMap (moduleIssue? registry module strict))

/-- An assignment offends as a name that is no text with content; where validation is strict, as a
path that is neither the name nor the module and lies below neither the module nor the attributes;
or below the module, as a path without a parameter where validation is strict, or with a parameter
that refuses its value.
-/
def Offends (registry : Registry) (module : Component) (strict : Bool) (entry : Path × Value)
    : Prop :=
  (entry.1 = Path.name ∧ ∀ t, entry.2 = .text t → t.isBlank = true)
  ∨ (strict = true ∧ entry.1 ≠ Path.name ∧ entry.1 ≠ Path.module
    ∧ ∀ k : Text, entry.1.text ≠ "module." ++ k ∧ entry.1.text ≠ "attributes." ++ k)
  ∨ ∃ k : Path,
      entry.1.text = "module." ++ k.text
      ∧ ((strict = true ∧ module.parameter? k.text = none)
        ∨ ∃ p single,
            module.parameter? k.text = some p
            ∧ p.coerce registry entry.2.toDatum = .error (.issue single))

theorem nameIssue?_isSome {entry : Path × Value}
    : (nameIssue? entry).isSome = true
      ↔ entry.1 = Path.name ∧ ∀ t, entry.2 = .text t → t.isBlank = true := by
  by_cases name : entry.1 = Path.name
  · cases value : entry.2 with
    | text t => by_cases blank : t.isBlank <;> simp [nameIssue?, name, nameFault?, value, blank]
    | reference | bool | int | float => simp [nameIssue?, name, nameFault?, value]
  · simp [nameIssue?, name]

/-- No path lies below another one exactly when its text goes on from that one in no way. -/
theorem below?_isNone {above p : Path}
    : (above.below? p).isNone = true ↔ ∀ k : Text, p.text ≠ above.text ++ "." ++ k := by
  rw [Option.isNone_iff_eq_none, Option.eq_none_iff_forall_ne_some]
  exact forall_congr' fun k => not_congr Text.dropLead?_eq_some

theorem unknownIssue?_isSome {strict : Bool} {entry : Path × Value}
    : (unknownIssue? strict entry).isSome = true
      ↔ strict = true ∧ entry.1 ≠ Path.name ∧ entry.1 ≠ Path.module
        ∧ ∀ k : Text, entry.1.text ≠ "module." ++ k ∧ entry.1.text ≠ "attributes." ++ k := by
  have module : Path.module.text ++ "." = "module." := rfl
  have attributes : Path.attributes.text ++ "." = "attributes." := rfl
  rw [unknownIssue?, Option.isSome_ite, below?_isNone, below?_isNone, module, attributes,
    forall_and]

theorem moduleIssue?_isSome {registry : Registry} {module : Component} {strict : Bool}
    {entry : Path × Value}
    : (moduleIssue? registry module strict entry).isSome = true
      ↔ ∃ k : Path,
          entry.1.text = "module." ++ k.text
          ∧ ((strict = true ∧ module.parameter? k.text = none)
            ∨ ∃ p single,
                module.parameter? k.text = some p
                ∧ p.coerce registry entry.2.toDatum = .error (.issue single)) := by
  have module' : Path.module.text ++ "." = "module." := rfl
  rw [moduleIssue?, ← module', Option.isSome_bind]
  constructor
  · intro issue
    obtain ⟨inner, inside, refused⟩ := (Option.any_eq_true _ _).mp issue
    obtain ⟨text, value⟩ := Path.inside?_eq_some.mp inside
    refine ⟨inner.1, text, ?_⟩
    rw [← value]
    exact overrideIssue?_isSome.mp refused
  · rintro ⟨k, text, refused⟩
    have inside : Path.module.inside? entry = some (k, entry.2) :=
      Path.inside?_eq_some.mpr ⟨text, rfl⟩
    simpa [inside] using overrideIssue?_isSome.mpr refused

/-- Exactly the offending assignments have an issue. -/
theorem issueAt?_isSome {registry : Registry} {module : Component} {strict : Bool}
    {entry : Path × Value}
    : (issueAt? registry module strict entry).isSome = true
      ↔ Offends registry module strict entry := by
  simp [issueAt?, Offends, Option.isSome_or, nameIssue?_isSome, unknownIssue?_isSome,
    moduleIssue?_isSome]

-----------------------------------------------------------------------------------------
-- One issue for each assignment
-----------------------------------------------------------------------------------------

/-- Where of two readings at most one gives a result, both together give the results of each, by
list induction.
-/
theorem filterMap_append_perm {α β : Type} {f g : α → Option β} {l : List α}
    (apart : ∀ a ∈ l, f a = none ∨ g a = none)
    : (l.filterMap f ++ l.filterMap g).Perm (l.filterMap fun a => (f a).or (g a)) := by
  induction l with
  | nil => exact .nil
  | cons a rest ih =>
      have later := ih fun b member => apart b (List.mem_cons_of_mem _ member)
      simp only [List.filterMap_cons]
      cases first : f a with
      | none =>
          cases second : g a with
          | none => simpa using later
          | some y => simpa using List.perm_middle.trans (later.cons y)
      | some x =>
          have none : g a = none := by
            simpa [first] using apart a List.mem_cons_self
          simpa [none] using later.cons x

/-- The name has no issue but its own, for it lies below no other path. -/
theorem nameIssue?_apart (registry : Registry) (module : Component) (strict : Bool)
    (entry : Path × Value)
    : nameIssue? entry = none
      ∨ (unknownIssue? strict entry).or (moduleIssue? registry module strict entry) = none := by
  by_cases name : entry.1 = Path.name
  · have outside : Path.module.below? Path.name = none := by decide
    refine Or.inr ?_
    simp [unknownIssue?, moduleIssue?, Path.inside?, name, outside]
  · exact Or.inl (if_neg name)

/-- An unknown path does not lie below the module. -/
theorem unknownIssue?_apart (registry : Registry) (module : Component) (strict : Bool)
    (entry : Path × Value)
    : unknownIssue? strict entry = none ∨ moduleIssue? registry module strict entry = none := by
  cases found : Path.module.below? entry.1 with
  | none => exact Or.inr (by simp [moduleIssue?, Path.inside?, found])
  | some below => exact Or.inl (by simp [unknownIssue?, found])

/-- The issues of a record are exactly those of its assignments, one for each that has any. -/
theorem issuesOf_perm (registry : Registry) (module : Component) (strict : Bool) (r : Record)
    : (issuesOf registry module strict r).Perm
        (r.values.entries.filterMap (issueAt? registry module strict)) :=
  (List.Perm.append_left _
      (filterMap_append_perm fun entry _ => unknownIssue?_apart registry module strict entry)).trans
    (filterMap_append_perm fun entry _ => nameIssue?_apart registry module strict entry)

/-- A record has no issues exactly when none of its assignments has one. -/
theorem issuesOf_eq_nil {registry : Registry} {module : Component} {strict : Bool} {r : Record}
    : issuesOf registry module strict r = []
      ↔ ∀ entry ∈ r.values.entries, issueAt? registry module strict entry = none := by
  rw [← List.filterMap_eq_nil_iff, ← List.perm_nil, ← List.perm_nil]
  exact ⟨(issuesOf_perm registry module strict r).symm.trans,
    (issuesOf_perm registry module strict r).trans⟩

-----------------------------------------------------------------------------------------
-- Handing over
-----------------------------------------------------------------------------------------

/-- The issue of a record's name is the one of the assignment to it. -/
theorem nameIssues_eq (r : Record)
    : nameIssues r = r.values.entries.filterMap nameIssue? := by
  have found := Table.filterMap_key r.values.distinct Path.name nameFault?
  rw [show r.values.entries.filterMap nameIssue?
      = ((r.values.entries.lookup Path.name).bind nameFault?).toList from found]
  rw [nameIssues, recordName, Record.get?, Table.find?]
  cases r.values.entries.lookup Path.name with
  | none => rfl
  | some value =>
      cases value with
      | text t =>
          by_cases blank : t.isBlank
          · simp [nameFault?, blank, Value.toDatum]
          · simp [nameFault?, blank]
      | reference | bool | int | float => rfl

/-- Where validation is strict, exactly the paths that are not known have an issue. -/
theorem unknownIssue?_strict (entry : Path × Value)
    : unknownIssue? true entry
      = if isKnown entry.1 then none else some (.unknownPath entry.1.text none) := by
  by_cases known : isKnown entry.1 = true
  · rw [if_pos known, unknownIssue?, if_neg]
    intro unknown
    revert known
    simp [isKnown, unknown]
  · rw [if_neg known, unknownIssue?, if_pos]
    simpa [isKnown, and_assoc] using known

/-- The issues of unknown paths are those of the assignments to them, by list induction. -/
theorem unknownIssues_eq (strict : Bool) (r : Record)
    : unknownIssues strict r = r.values.entries.filterMap (unknownIssue? strict) := by
  cases strict with
  | false =>
      have none : ∀ entry ∈ r.values.entries, unknownIssue? false entry = none := by
        simp [unknownIssue?]
      simp [unknownIssues, List.filterMap_eq_nil_iff.mpr none]
  | true =>
      rw [unknownIssues, if_pos rfl, unknownPaths, Record.paths, Table.keys]
      induction r.values.entries with
      | nil => rfl
      | cons entry rest ih =>
          by_cases known : isKnown entry.1 = true
          · simp [unknownIssue?_strict, known, ih]
          · simp [unknownIssue?_strict, known, ih]

/-- The findings below the module are the issues of the assignments there. -/
theorem examine_issues {registry : Registry} {module : Component} {strict : Bool} {r : Record}
    (complete
      : (examine .record registry module strict (r.below Path.module).entries).failure = none)
    : (examine .record registry module strict (r.below Path.module).entries).issues
      = r.values.entries.filterMap (moduleIssue? registry module strict) := by
  rw [(examine_of_complete complete).2.1, Record.below_entries, List.filterMap_filterMap]
  rfl

/-- The algorithm that a record without issues configures for its module. -/
def configured (registry : Registry) (module : Component) (strict : Bool)
    (fallback source : Option Text) (r : Record)
    : Algorithm where
  name := nameOf r fallback module
  module := module
  parameters :=
    Table.ofList (examine .record registry module strict (r.below Path.module).entries).kept
  attributes := r.below Path.attributes
  record := r.freeze
  source := source

/-- The ways in which a hand-over can end. -/
inductive HandsOver (registry : Registry) (strict : Bool) (fallback source : Option Text)
    (r : Record)
    : HandOver → Prop where
  | noModule {failure : Failure} :
      moduleOf registry source r = .error failure →
      HandsOver registry strict fallback source r ⟨r, Logged.fail failure⟩
  | cutShort {module : Component} {notices : List Notice} :
      moduleOf registry source r = .ok module →
      HandsOver registry strict fallback source r ⟨r, notices, .error .incomparable⟩
  | refused {module : Component} {notices : List Notice} :
      moduleOf registry source r = .ok module →
      issuesOf registry module strict r ≠ [] →
      HandsOver registry strict fallback source r
        ⟨r, notices, .error (.problem (.invalid (issuesOf registry module strict r) source))⟩
  | configured {module : Component} {notices : List Notice} :
      moduleOf registry source r = .ok module →
      (examine .record registry module strict (r.below Path.module).entries).failure = none →
      issuesOf registry module strict r = [] →
      HandsOver registry strict fallback source r
        ⟨r.freeze, notices, .ok (configured registry module strict fallback source r)⟩

/-- Every hand-over ends in one of these ways. Witness: the outcomes of looking for the module and
of examining the overrides, then whether there are issues.
-/
theorem handOver_cases (registry : Registry) (strict : Bool) (fallback source : Option Text)
    (r : Record)
    : HandsOver registry strict fallback source r (handOver registry strict fallback source r) := by
  rw [handOver]
  cases found : moduleOf registry source r with
  | error failure => exact .noModule found
  | ok module =>
      dsimp only
      have ends := examine_failure .record registry module strict (r.below Path.module).entries
      rcases ends with complete | short
      · have gathered : nameIssues r ++ unknownIssues strict r
              ++ (examine .record registry module strict (r.below Path.module).entries).issues
            = issuesOf registry module strict r := by
          rw [nameIssues_eq, unknownIssues_eq, examine_issues complete, List.append_assoc]
          rfl
        rw [complete, gathered]
        cases issues : issuesOf registry module strict r with
        | nil => exact .configured found complete issues
        | cons first rest =>
            have some : issuesOf registry module strict r ≠ [] := by simp [issues]
            dsimp only
            rw [← issues]
            exact .refused found some
      · rw [short]
        exact .cutShort found

-----------------------------------------------------------------------------------------
-- The account
-----------------------------------------------------------------------------------------

/-- The parameters of a configured algorithm have the paths below the module, in their order. -/
theorem configured_parameters {registry : Registry} {module : Component} {strict : Bool}
    (fallback source : Option Text) {r : Record}
    (complete
      : (examine .record registry module strict (r.below Path.module).entries).failure = none)
    (clear : issuesOf registry module strict r = [])
    : (configured registry module strict fallback source r).parameters.entries
        = ((r.below Path.module).entries.filterMap fun override =>
            (keptValue? .record registry module strict override).map (override.1, ·))
      ∧ (configured registry module strict fallback source r).parameters.keys
        = (r.below Path.module).keys := by
  obtain ⟨comparable, _, kept⟩ := examine_of_complete complete
  have accepted : ∀ override ∈ (r.below Path.module).entries,
      overrideIssue? .record registry module strict override = none := by
    rw [Record.below_entries]
    intro override member
    obtain ⟨entry, known, inside⟩ := List.mem_filterMap.mp member
    have none := issuesOf_eq_nil.mp clear entry known
    simp only [issueAt?, Option.or_eq_none_iff] at none
    simpa [moduleIssue?, inside] using none.2.2
  have keys := keys_of_accepted comparable accepted
  have entries : (configured registry module strict fallback source r).parameters.entries
      = (examine .record registry module strict (r.below Path.module).entries).kept := by
    refine Table.entries_ofList ?_
    rw [kept, keys]
    exact (r.below Path.module).distinct
  refine ⟨entries.trans kept, ?_⟩
  rw [Table.keys, entries, kept, keys]
  rfl

/-- The paths of the parameters are those of the record below the module. -/
theorem configured_paths {registry : Registry} {module : Component} {strict : Bool}
    (fallback source : Option Text) {r : Record}
    (complete
      : (examine .record registry module strict (r.below Path.module).entries).failure = none)
    (clear : issuesOf registry module strict r = [])
    : ((configured registry module strict fallback source r).parameters.keys.map fun k =>
          Path.module.text ++ "." ++ k.text)
      = (r.paths.filter fun p => (Path.module.below? p).isSome).map Path.text := by
  have keys := (configured_parameters fallback source complete clear).2
  have paths := congrArg (List.map Prod.fst) (Path.module.outside_inside r.values.entries)
  rw [keys, Table.keys, Record.below_entries]
  simpa [Path.outside, Function.comp_def, Record.paths, Table.keys, List.filter_map] using paths

/-- Each parameter has the value that is kept for what the record assigns to it. -/
theorem configured_values {registry : Registry} {module : Component} {strict : Bool}
    (fallback source : Option Text) {r : Record}
    (complete
      : (examine .record registry module strict (r.below Path.module).entries).failure = none)
    (clear : issuesOf registry module strict r = [])
    : ∀ entry ∈ (configured registry module strict fallback source r).parameters.entries,
        ∃ given,
          (entry.1, given) ∈ (r.below Path.module).entries
          ∧ keptValue? .record registry module strict (entry.1, given) = some entry.2 := by
  rw [(configured_parameters fallback source complete clear).1]
  intro entry member
  obtain ⟨override, known, kept⟩ := List.mem_filterMap.mp member
  obtain ⟨value, same, rfl⟩ := Option.map_eq_some_iff.mp kept
  exact ⟨override.2, known, same⟩

/-- The attributes are what the record assigns below them, as it was assigned. -/
theorem configured_attributes (registry : Registry) (module : Component) (strict : Bool)
    (fallback source : Option Text) (r : Record)
    : (configured registry module strict fallback source r).attributes.entries.map
        Path.attributes.outside
      = (r.values.entries.filter fun entry => (Path.attributes.below? entry.1).isSome).map
          fun entry => (entry.1.text, entry.2) := by
  rw [configured, Record.below_entries]
  exact Path.attributes.outside_inside r.values.entries

/-- Once the module is found, a hand-over that was not cut short ends by whether there are issues.
-/
theorem ofRecord_settled {registry : Registry} {module : Component} {strict : Bool}
    {fallback source : Option Text} {r : Record}
    (found : moduleOf registry source r = .ok module)
    (settled : ∀ failure, (ofRecord registry strict fallback source r).outcome = .error failure →
      ∃ issues, failure = .problem (.invalid issues source))
    : (issuesOf registry module strict r = []
        ∧ (examine .record registry module strict (r.below Path.module).entries).failure = none
        ∧ (ofRecord registry strict fallback source r).outcome
          = .ok (configured registry module strict fallback source r))
      ∨ (issuesOf registry module strict r ≠ []
        ∧ (ofRecord registry strict fallback source r).outcome
          = .error (.problem (.invalid (issuesOf registry module strict r) source))) := by
  have ends := handOver_cases registry strict fallback source r
  rw [ofRecord] at settled ⊢
  generalize handOver registry strict fallback source r = handed at ends settled ⊢
  cases ends with
  | noModule failed =>
      rw [found] at failed
      cases failed
  | cutShort _ =>
      obtain ⟨_, invalid⟩ := settled .incomparable rfl
      cases invalid
  | refused found' some =>
      rw [found] at found'
      cases found'
      exact Or.inr ⟨some, rfl⟩
  | configured found' complete clear =>
      rw [found] at found'
      cases found'
      exact Or.inl ⟨clear, complete, rfl⟩

/-- Once the module is found, a record becomes an algorithm exactly when no assignment offends, with
all parameters and attributes that it assigns in their order, and is refused otherwise with one
issue for each offending assignment. Records with a value that cannot be compared with its bound are
left out.
-/
theorem ofRecord_accounts {registry : Registry} {module : Component} {strict : Bool}
    {fallback source : Option Text} {r : Record}
    (found : moduleOf registry source r = .ok module)
    (settled : ∀ failure, (ofRecord registry strict fallback source r).outcome = .error failure →
      ∃ issues, failure = .problem (.invalid issues source))
    : ((∀ entry ∈ r.values.entries, ¬ Offends registry module strict entry)
        → ∃ a,
            (ofRecord registry strict fallback source r).outcome = .ok a
            ∧ (a.parameters.keys.map fun k => Path.module.text ++ "." ++ k.text)
              = (r.paths.filter fun p => (Path.module.below? p).isSome).map Path.text
            ∧ (∀ entry ∈ a.parameters.entries, ∃ given,
                (entry.1, given) ∈ (r.below Path.module).entries
                ∧ keptValue? .record registry module strict (entry.1, given) = some entry.2)
            ∧ a.attributes.entries.map Path.attributes.outside
              = (r.values.entries.filter fun entry => (Path.attributes.below? entry.1).isSome).map
                  fun entry => (entry.1.text, entry.2))
      ∧ ((∃ entry ∈ r.values.entries, Offends registry module strict entry)
        → (ofRecord registry strict fallback source r).outcome
            = .error (.problem (.invalid (issuesOf registry module strict r) source)))
      ∧ (issuesOf registry module strict r).Perm
          (r.values.entries.filterMap (issueAt? registry module strict))
      ∧ ∀ entry,
          (issueAt? registry module strict entry).isSome = true
            ↔ Offends registry module strict entry := by
  refine ⟨?_, ?_, issuesOf_perm registry module strict r, fun _ => issueAt?_isSome⟩
  · intro clean
    have clear : issuesOf registry module strict r = [] := by
      refine issuesOf_eq_nil.mpr fun entry member => ?_
      rw [← Option.not_isSome_iff_eq_none, issueAt?_isSome]
      exact clean entry member
    rcases ofRecord_settled found settled with ⟨_, complete, made⟩ | ⟨some, _⟩
    · exact ⟨_, made, configured_paths fallback source complete clear,
        configured_values fallback source complete clear,
        configured_attributes registry module strict fallback source r⟩
    · exact absurd clear some
  · rintro ⟨entry, member, offends⟩
    rcases ofRecord_settled found settled with ⟨clear, _⟩ | ⟨_, refused⟩
    · have none := issuesOf_eq_nil.mp clear entry member
      rw [← issueAt?_isSome, none] at offends
      cases offends
    · exact refused

theorem no_parameters_declaring
    : ([] : List Parameter) = [] ∨ ComponentKind.module = ComponentKind.module :=
  Or.inl rfl

theorem no_parameters_distinct : (([] : List Parameter).map Parameter.path).Nodup := by
  simp

/-- A module without parameters. -/
def plainModule (reference : Reference) : Component where
  reference := reference
  kind := .module
  aliases := []
  description := []
  parameters := []
  declaring := no_parameters_declaring
  distinct := no_parameters_distinct

theorem isComponentName_m : ("M" : Text).isComponentName = true := by
  decide +kernel

/-- A truth value as name, an unknown path and an undeclared override are reported together, the
override last although it was assigned first.
-/
theorem ofRecord_accounts_three_issues
    : let m : Reference := ⟨"M", isComponentName_m⟩
      let registry := Registry.empty.insert (plainModule m)
      let r := Record.ofList
        [(Path.module, .reference m), (⟨"module.k", by decide⟩, .int 2),
          (⟨"shape", by decide⟩, .int 1), (Path.name, .bool true)]
      (ofRecord registry true none none r).outcome
        = .error (.problem (.invalid
            [.mismatch "name" .nonEmptyName (.bool true), .unknownPath "shape" none,
              .unknownPath "module.k" (some "M")] none)) := by
  intro m registry r
  have found : moduleOf registry none r = .ok (plainModule m) := rfl
  have settled : ∀ failure, (ofRecord registry true none none r).outcome = .error failure →
      ∃ issues, failure = .problem (.invalid issues none) := by
    intro failure failed
    cases failed
    exact ⟨_, rfl⟩
  refine ((ofRecord_accounts found settled).2.1 ⟨(Path.name, .bool true), ?_, ?_⟩).trans rfl
  · exact List.mem_of_getElem? (i := 3) rfl
  · exact Or.inl ⟨rfl, by simp⟩

end Recommender.Algorithm
