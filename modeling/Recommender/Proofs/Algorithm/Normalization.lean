import Recommender.Proofs.Algorithm.Coercion
import Recommender.Proofs.Algorithm.Outcome
import Recommender.Proofs.Record.Assignments

/-! Writing an accepted record again. The module may be written by any name that stands for it, and
each override in any way that its parameter takes for the same value: the record configures the same
algorithm. The full names and the values that the algorithm has are one way to write it, and other
names of the same components are another.
-/

namespace Recommender

open Validation

variable {registry : Registry} {module : Component} {strict : Bool} {fallback source : Option Text}
  {a : Algorithm} {r s : Record}

-----------------------------------------------------------------------------------------
-- Agreement
-----------------------------------------------------------------------------------------

namespace Algorithm

/-- A record rewrites the record of an algorithm: it has the same paths in the same order, a name of
the module, below the module values of which the overrides are made, and the values of the record at
all other paths.
-/
structure Rewrites (registry : Registry) (strict : Bool) (source : Option Text) (a : Algorithm)
    (r s : Record) : Prop where
  paths : s.paths = r.paths
  module : moduleOf registry source s = .ok a.module
  overrides {k : Path} {value : Value} (set : a.parameters.find? k = some value)
    : ∃ given,
        s.get? (Path.module.extend k) = some given
        ∧ keptValue? .record registry a.module strict (k, given) = some value
  others {p : Path} (notModule : p ≠ Path.module) (outside : Path.module.below? p = none)
    : s.get? p = r.get? p

/-- Nothing is wrong with a record that rewrites one with which nothing is wrong. -/
theorem Rewrites.clear (clear : Clear registry module strict r)
    (rewrites
      : Rewrites registry strict source (configured registry module strict fallback source r) r s)
    : Clear registry module strict s := by
  obtain ⟨name, paths, _⟩ := clear_iff.mp clear
  refine clear_iff.mpr ⟨?_, ?_, fun override member => ?_⟩
  · rwa [nameIssues, recordName_congr (rewrites.others (by decide) (by decide))]
  · rwa [unknownIssues, unknownPaths, rewrites.paths]
  · -- the path of an override is one of the algorithm, which says what is kept for it
    have found := Table.find?_eq_some.mpr member
    have known := Table.mem_keys.mpr ⟨_, found⟩
    rw [Record.below_keys, rewrites.paths, ← Record.below_keys, ← configured_keys clear] at known
    obtain ⟨value, set⟩ := Table.mem_keys.mp known
    obtain ⟨given, assigned, kept⟩ := rewrites.overrides set
    rw [Record.find?_below, assigned] at found
    cases found
    exact Option.isSome_iff_exists.mpr ⟨value, kept⟩

/-- A record that rewrites another one configures the same but for the record itself. -/
theorem Rewrites.configured (clear : Clear registry module strict r)
    (rewrites
      : Rewrites registry strict source (configured registry module strict fallback source r) r s)
    : configured registry module strict fallback source s
      = { configured registry module strict fallback source r with record := s.freeze } := by
  have name : nameOf s fallback module = nameOf r fallback module := by
    rw [nameOf, nameOf, recordName_congr (rewrites.others (by decide) (by decide))]
  have parameters : (Algorithm.configured registry module strict fallback source r).parameters
      = (Algorithm.configured registry module strict fallback source s).parameters := by
    refine Table.eq_of_keys ?_ fun {k value} set => ?_
    · rw [configured_keys clear, configured_keys (rewrites.clear clear), Record.below_keys,
        Record.below_keys, rewrites.paths]
    · obtain ⟨given, assigned, kept⟩ := rewrites.overrides set
      rw [configured_find? (rewrites.clear clear), assigned]
      exact kept
  have attributes : s.below Path.attributes = r.below Path.attributes := by
    refine Table.eq_of_keys ?_ fun {k value} set => ?_
    · rw [Record.below_keys, Record.below_keys, rewrites.paths]
    · rw [Record.find?_below] at set ⊢
      rwa [← rewrites.others (Path.extend_ne (by decide) k) rfl]
  rw [Algorithm.configured, Algorithm.mk.injEq]
  exact ⟨name, rfl, parameters.symm, attributes, rfl, rfl⟩

/-- A record that rewrites the one of an algorithm configures that algorithm. -/
theorem Rewrites.ofRecord (rewrites : Rewrites registry strict source a r s)
    (made : (ofRecord registry strict fallback source r).outcome = .ok a)
    : (ofRecord registry strict fallback source s).outcome = .ok { a with record := s.freeze } := by
  obtain ⟨module, _, clear, rfl⟩ := ofRecord_eq_ok.mp made
  exact ofRecord_eq_ok.mpr
    ⟨module, rewrites.module, rewrites.clear clear, rewrites.configured clear⟩

-----------------------------------------------------------------------------------------
-- Full names and made values
-----------------------------------------------------------------------------------------

/-- An assignment with its value as an algorithm has it: the module by its full name, an override as
it was made, and any other value as it is.
-/
def normalValue (a : Algorithm) (entry : Path × Value) : Value :=
  if entry.1 = Path.module then .reference a.module.reference
  else ((Path.module.inside? entry).bind fun inner => a.parameters.find? inner.1).getD entry.2

/-- The record with the same paths in the same order in which each value is as an algorithm has it.
-/
def normalized (a : Algorithm) (r : Record) : Record :=
  Record.ofList (r.values.entries.map fun entry => (entry.1, a.normalValue entry))

theorem normalized_entries (a : Algorithm) (r : Record)
    : (a.normalized r).values.entries
      = r.values.entries.map fun entry => (entry.1, a.normalValue entry) := by
  rw [normalized, Record.ofList_eq]
  refine Table.entries_ofList ?_
  rw [List.map_map]
  exact r.values.distinct

theorem normalized_paths (a : Algorithm) (r : Record) : (a.normalized r).paths = r.paths := by
  rw [Record.paths, Table.keys, normalized_entries, List.map_map]
  rfl

theorem normalized_get? (a : Algorithm) (r : Record) (p : Path)
    : (a.normalized r).get? p = (r.get? p).map fun given => a.normalValue (p, given) := by
  refine Option.ext fun value => ?_
  rw [Record.get?, Table.find?_eq_some, normalized_entries, Option.map_eq_some_iff, List.mem_map]
  simp only [Record.get?, Table.find?_eq_some]
  constructor
  · rintro ⟨entry, member, same⟩
    obtain ⟨rfl, rfl⟩ := Prod.mk.inj same
    exact ⟨entry.2, member, rfl⟩
  · rintro ⟨given, member, rfl⟩
    exact ⟨(p, given), member, rfl⟩

theorem normalValue_module (a : Algorithm) (given : Value)
    : a.normalValue (Path.module, given) = .reference a.module.reference :=
  if_pos rfl

theorem normalValue_extend (a : Algorithm) (k : Path) (given : Value)
    : a.normalValue (Path.module.extend k, given) = (a.parameters.find? k).getD given := by
  have inside : Path.module.inside? (Path.module.extend k, given) = some (k, given) :=
    Path.inside?_eq_some.mpr ⟨rfl, rfl⟩
  rw [normalValue, if_neg (Path.extend_ne (by decide) k), inside, Option.bind_some]

theorem normalValue_outside (a : Algorithm) {p : Path} (notModule : p ≠ Path.module)
    (outside : Path.module.below? p = none) (given : Value)
    : a.normalValue (p, given) = given := by
  rw [normalValue, if_neg notModule, Path.inside?, outside]
  rfl

/-- A value that is kept for an override is kept for itself. -/
theorem keptValue?_again (sound : registry.Sound) {k : Path} {given value : Value}
    (kept : keptValue? .record registry module strict (k, given) = some value)
    : keptValue? .record registry module strict (k, value) = some value := by
  rcases keptValue?_eq_some.mp kept with ⟨undeclared, lenient, _⟩ | ⟨p, _, declared, made, rfl⟩
  · exact keptValue?_eq_some.mpr (.inl ⟨undeclared, lenient, rfl⟩)
  · exact keptValue?_eq_some.mpr (.inr ⟨p, _, declared, Parameter.coerce_coerced sound made, rfl⟩)

/-- The values that an algorithm has rewrite its record. -/
theorem rewrites_normalized (sound : registry.Sound)
    (made : (ofRecord registry strict fallback source r).outcome = .ok a)
    : Rewrites registry strict source a r (a.normalized r) := by
  obtain ⟨module, found, clear, rfl⟩ := ofRecord_eq_ok.mp made
  obtain ⟨reference, assigned, resolved, isModule⟩ := moduleOf_eq_ok.mp found
  refine ⟨normalized_paths _ r, ?_, fun {k value} set => ?_, fun {p} notModule outside => ?_⟩
  · refine moduleOf_eq_ok.mpr ⟨module.reference, ?_, ?_, isModule⟩
    · rw [normalized_get?, assigned, Option.map_some, normalValue_module]
      rfl
    · exact Registry.resolve_name (sound.registered_of_resolve resolved) _
  · have origin := set
    rw [configured_find? clear] at origin
    obtain ⟨given, assigned, kept⟩ := Option.bind_eq_some_iff.mp origin
    refine ⟨value, ?_, keptValue?_again sound kept⟩
    rw [normalized_get?, assigned, Option.map_some, normalValue_extend, set, Option.getD_some]
  · rw [normalized_get?]
    cases r.get? p with
    | none => rfl
    | some given => rw [Option.map_some, normalValue_outside _ notModule outside]

-----------------------------------------------------------------------------------------
-- Other names
-----------------------------------------------------------------------------------------

/-- The kind of the components that are meant at a path: a module at the path of the module, and
below it the kind that the parameter there takes.
-/
inductive Means (module : Component) : Path → ComponentKind → Prop where
  | module : Means module Path.module .module
  | parameter {k : Path} {p : Parameter} {kind : ComponentKind} :
      module.parameter? k.text = some p →
      p.type = .component kind →
      Means module (Path.module.extend k) kind

theorem means_module {kind : ComponentKind} (means : Means module Path.module kind)
    : kind = .module := by
  generalize path : Path.module = p at means
  cases means with
  | module => rfl
  | parameter => exact absurd path.symm (Path.extend_ne (by decide) _)

theorem means_extend {k : Path} {kind : ComponentKind}
    (means : Means module (Path.module.extend k) kind)
    : ∃ p, module.parameter? k.text = some p ∧ p.type = .component kind := by
  generalize path : Path.module.extend k = q at means
  cases means with
  | module => exact absurd path (Path.extend_ne (by decide) k)
  | parameter declared type =>
      obtain rfl := Path.extend_inj.mp path
      exact ⟨_, declared, type⟩

/-- A record respells another one: it has the same paths in the same order, and at each path the
same value or, where a component is meant, a reference that stands for the same component.
-/
structure Respells (registry : Registry) (module : Component) (r s : Record) : Prop where
  paths : s.paths = r.paths
  same {p : Path} {given other : Value} (assigned : r.get? p = some given)
    (assigned' : s.get? p = some other)
    : given = other
      ∨ ∃ x y kind c,
          given = .reference x
          ∧ other = .reference y
          ∧ Means module p kind
          ∧ registry.resolve x.name (some kind) = .ok c
          ∧ registry.resolve y.name (some kind) = .ok c

/-- What is kept for a reference is kept for every other one that stands for the same component. -/
theorem keptValue?_respelled {k : Path} {kind : ComponentKind} {x y : Reference} {c : Component}
    {value : Value} (means : Means module (Path.module.extend k) kind)
    (first : registry.resolve x.name (some kind) = .ok c)
    (second : registry.resolve y.name (some kind) = .ok c)
    (kept : keptValue? .record registry module strict (k, .reference x) = some value)
    : keptValue? .record registry module strict (k, .reference y) = some value := by
  obtain ⟨p, declared, type⟩ := means_extend means
  rcases keptValue?_eq_some.mp kept with ⟨undeclared, _⟩ | ⟨q, coerced, declared', made, same⟩
  · exact nomatch declared.symm.trans undeclared
  · obtain rfl := Option.some.inj (declared.symm.trans declared')
    refine keptValue?_eq_some.mpr (.inr ⟨p, coerced, declared, ?_, same⟩)
    rw [Parameter.coerce_component type, Parameter.coerceComponent_eq_ok] at made ⊢
    obtain ⟨_, d, isX, found, fits, rfl⟩ := made
    cases isX
    obtain rfl := Except.ok.inj (first.symm.trans found)
    exact ⟨y, c, rfl, second, fits, rfl⟩

/-- Other names of the components that an algorithm has rewrite its record. -/
theorem Respells.rewrites (respells : Respells registry a.module r s)
    (made : (ofRecord registry strict fallback source r).outcome = .ok a)
    : Rewrites registry strict source a r s := by
  obtain ⟨module, found, clear, rfl⟩ := ofRecord_eq_ok.mp made
  have present {p : Path} {given : Value} (assigned : r.get? p = some given)
      : ∃ other, s.get? p = some other := by
    rw [← Option.isSome_iff_exists, Record.get?_isSome_congr respells.paths, assigned]
    rfl
  refine ⟨respells.paths, ?_, fun {k value} set => ?_, fun {p} notModule outside => ?_⟩
  · obtain ⟨reference, assigned, resolved, isModule⟩ := moduleOf_eq_ok.mp found
    obtain ⟨other, assigned'⟩ := present assigned
    rcases respells.same assigned assigned' with
      rfl | ⟨x, y, kind, c, isX, rfl, means, first, second⟩
    · exact moduleOf_eq_ok.mpr ⟨reference, assigned', resolved, isModule⟩
    · cases isX
      obtain rfl := means_module means
      obtain rfl := Except.ok.inj (first.symm.trans resolved)
      exact moduleOf_eq_ok.mpr ⟨y, assigned', second, isModule⟩
  · rw [configured_find? clear] at set
    obtain ⟨given, assigned, kept⟩ := Option.bind_eq_some_iff.mp set
    obtain ⟨other, assigned'⟩ := present assigned
    refine ⟨other, assigned', ?_⟩
    rcases respells.same assigned assigned' with
      rfl | ⟨x, y, kind, c, rfl, rfl, means, first, second⟩
    · exact kept
    · exact keptValue?_respelled means first second kept
  · cases assigned : r.get? p with
    | none =>
        rw [← Option.isNone_iff_eq_none, ← Option.not_isSome,
          Record.get?_isSome_congr respells.paths, assigned]
        rfl
    | some given =>
        obtain ⟨other, assigned'⟩ := present assigned
        rcases respells.same assigned assigned' with rfl | ⟨_, _, _, _, _, _, means, _⟩
        · exact assigned'
        -- no component is meant at a path that is neither the module's nor below it
        · cases means with
          | module => exact absurd rfl notModule
          | parameter => simp [Path.below?_extend] at outside

-----------------------------------------------------------------------------------------
-- The same algorithm
-----------------------------------------------------------------------------------------

/-- Whatever registrations and catalogs made the registry, an accepted record configures the same
algorithm when it is written with the full name of the module and the values that the algorithm has;
a value that a parameter made is one that it makes of itself; and each name of the module or of a
component below it can stand for any other.
-/
theorem ofRecord_normalized (actions : List Registry.Action)
    (made : (ofRecord (Registry.Action.run actions) strict fallback source r).outcome = .ok a)
    : let registry := Registry.Action.run actions
      (ofRecord registry strict fallback source (a.normalized r)).outcome
          = .ok { a with record := (a.normalized r).freeze }
        ∧ (∀ (p : Parameter) d value,
            p.coerce registry d = .ok value → p.coerce registry value.toDatum = .ok value)
        ∧ ∀ s,
            Respells registry a.module r s
              → (ofRecord registry strict fallback source s).outcome
                = .ok { a with record := s.freeze } := by
  intro registry
  have sound : registry.Sound := Registry.sound_run actions
  exact ⟨(rewrites_normalized sound made).ofRecord made,
    fun _ _ _ => Parameter.coerce_coerced sound,
    fun _ respells => (respells.rewrites made).ofRecord made⟩

/-- A parameter that takes a truth value. -/
def cachingParameter : Parameter :=
  ⟨⟨"caching", by decide⟩, .scalar .bool, .missing, none, []⟩

/-- A parameter that takes a clamp. -/
def rangeParameter : Parameter :=
  ⟨⟨"range", by decide⟩, .component .clamp, .missing, none, []⟩

/-- A module with an alias and two parameters. -/
def clampedModule : Component where
  reference := ⟨"M", isComponentName_m⟩
  kind := .module
  aliases := ["em"]
  description := []
  parameters := [cachingParameter, rangeParameter]
  declaring := .inr rfl
  distinct := by decide

/-- An alias of the module, a number for a truth value and the short name of a clamp are written as
the full name, the truth value and the full name; aliases and other names come to the same.
-/
theorem ofRecord_normalized_alias_and_short_name
    : let actions : List Registry.Action :=
        [.register (Registry.aliased ⟨"p.C", by decide⟩ ["cee"]) false,
          .register clampedModule false]
      let registry := Registry.Action.run actions
      let record (module clamp : Reference) := Record.ofList
        [(Path.module, .reference module), (⟨"module.caching", by decide⟩, .int 1),
          (⟨"module.range", by decide⟩, .reference clamp)]
      let r := record ⟨"em", by decide⟩ ⟨"C", by decide⟩
      let s := record ⟨"M", isComponentName_m⟩ ⟨"cee", by decide⟩
      ∃ a,
        (ofRecord registry true none none r).outcome = .ok a
        ∧ (a.normalized r).values.entries
          = [(Path.module, .reference ⟨"M", isComponentName_m⟩),
            (⟨"module.caching", by decide⟩, .bool true),
            (⟨"module.range", by decide⟩, .reference ⟨"p.C", by decide⟩)]
        ∧ (ofRecord registry true none none (a.normalized r)).outcome
          = .ok { a with record := (a.normalized r).freeze }
        ∧ (ofRecord registry true none none s).outcome = .ok { a with record := s.freeze } := by
  intro actions registry record r s
  have made : (ofRecord registry true none none r).outcome
      = .ok (configured registry clampedModule true none none r) := rfl
  obtain ⟨normalized, _, respelled⟩ := ofRecord_normalized actions made
  refine ⟨_, made, rfl, normalized, respelled s ⟨rfl, fun {p given other} assigned assigned' => ?_⟩⟩
  have member := Table.find?_eq_some.mp assigned
  rcases member with _ | ⟨_, _ | ⟨_, _ | ⟨_, ⟨⟩⟩⟩⟩
  · cases (assigned'.symm : some other = s.get? Path.module)
    exact .inr ⟨_, _, .module, clampedModule, rfl, rfl, .module, rfl, rfl⟩
  · cases (assigned'.symm : some other = s.get? ⟨"module.caching", by decide⟩)
    exact .inl rfl
  · cases (assigned'.symm : some other = s.get? ⟨"module.range", by decide⟩)
    have means : Means clampedModule (Path.module.extend ⟨"range", by decide⟩) .clamp :=
      .parameter (p := rangeParameter) rfl rfl
    exact .inr ⟨_, _, .clamp, _, rfl, rfl, means, rfl, rfl⟩

end Algorithm

end Recommender
