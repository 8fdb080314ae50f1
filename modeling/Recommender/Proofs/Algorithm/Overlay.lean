import Recommender.Proofs.Algorithm.Comparability
import Recommender.Proofs.Algorithm.Effective
import Recommender.Proofs.Pointwise

/-! What the parameters in effect are: the defaults of a module with the overrides of a record laid
over them. What is in effect at a path depends on the default and the override at that path alone.
-/

namespace Recommender

-----------------------------------------------------------------------------------------
-- Defaults
-----------------------------------------------------------------------------------------

namespace Component

/-- The paths of those parameters that have a default, in the order of declaration. -/
def defaulted (c : Component) : List Path :=
  (c.parameters.filter Parameter.hasDefault).map Parameter.path

theorem nodup_defaulted (c : Component) : c.defaulted.Nodup :=
  c.distinct.sublist (List.filter_sublist.map Parameter.path)

/-- The defaults of a component are the values of exactly those parameters that have one. -/
theorem defaults_eq_ok {c : Component} {table : Table Path Datum} (made : c.defaults = .ok table)
    : table.keys = c.defaulted
      ∧ ∀ k d, table.find? k = some d
        ↔ ∃ p ∈ c.parameters, p.path = k ∧ p.hasDefault = true ∧ p.defaultValue = .ok d := by
  rw [defaults] at made
  cases all : (c.parameters.filter Parameter.hasDefault).mapM fun p => do
      return (p.path, ← p.defaultValue) with
  | error failure =>
      rw [all] at made
      cases made
  | ok entries =>
      rw [all] at made
      obtain rfl := Except.ok.inj made
      have each : ∀ (p : Parameter) (entry : Path × Datum),
          (do return (p.path, ← p.defaultValue)) = Except.ok (ε := Failure) entry
            ↔ p.path = entry.1 ∧ p.defaultValue = .ok entry.2 := by
        intro p entry
        cases p.defaultValue with
        | error failure => simp [bind, Except.bind]
        | ok d => simp [bind, Except.bind, pure, Except.pure, Prod.ext_iff]
      have related := (Pointwise.mapM_iff.mp all).imp fun p entry => (each p entry).mp
      have paths : entries.map Prod.fst = c.defaulted := (Pointwise.map_eq related And.left).symm
      have distinct : (entries.map Prod.fst).Nodup := paths ▸ c.nodup_defaulted
      refine ⟨by rw [Table.keys, Table.entries_ofList distinct, paths], fun k d => ?_⟩
      rw [Table.find?_eq_some, Table.entries_ofList distinct]
      constructor
      · intro member
        obtain ⟨p, declared, path, value⟩ := Pointwise.exists_left related member
        obtain ⟨declared, given⟩ := List.mem_filter.mp declared
        exact ⟨p, declared, path, given, value⟩
      · rintro ⟨p, declared, rfl, given, value⟩
        obtain ⟨entry, member, path, value'⟩ :=
          Pointwise.exists_right related (List.mem_filter.mpr ⟨declared, given⟩)
        obtain rfl := Except.ok.inj (value.symm.trans value')
        rwa [path]

end Component

-----------------------------------------------------------------------------------------
-- Overrides
-----------------------------------------------------------------------------------------

namespace Algorithm

open Validation

variable {registry : Registry} {module : Component} {strict : Bool} {fallback source : Option Text}
  {r : Record} {a : Algorithm} {table : Table Path Datum}

/-- The paths that a record overrides, in its order and as the module has them. -/
def overridden (r : Record) : List Path :=
  r.paths.filterMap fun path => (Path.module.below? path).bind Path.ofText?

/-- A table of parameters in effect is the defaults of a module with the overrides of a record laid
over them. First come the parameters with a default, then the further overrides. Overridden, a
declared parameter has what it makes of the given value, and an undeclared path, which is accepted
only when validation is not strict, the given value itself; not overridden, there is the default.
-/
structure Overlays (registry : Registry) (module : Component) (strict : Bool) (r : Record)
    (table : Table Path Datum)
    : Prop where
  keys : table.keys = module.defaulted ++ (overridden r).filter (· ∉ module.defaulted)
  declared
    : ∀ p ∈ module.parameters, ∀ given, r.get? (Path.module.extend p.path) = some given →
        ∃ value,
          p.coerce registry given.toDatum = .ok value
          ∧ table.find? p.path = some value.toDatum
  undeclared
    : ∀ k, (∀ p ∈ module.parameters, p.path ≠ k) →
        ∀ given, r.get? (Path.module.extend k) = some given →
          strict = false ∧ table.find? k = some given.toDatum
  default
    : ∀ k, r.get? (Path.module.extend k) = none →
        ∀ d, table.find? k = some d
          ↔ ∃ p ∈ module.parameters, p.path = k ∧ p.hasDefault = true ∧ p.defaultValue = .ok d

theorem effective_eq_ok
    : a.effective = .ok table
      ↔ ∃ defaults,
          a.module.defaults = .ok defaults
          ∧ defaults.overlay (a.parameters.mapValues Value.toDatum) = table := by
  rw [Algorithm.effective]
  cases a.module.defaults <;> simp [bind, Except.bind, pure, Except.pure]

/-- Where nothing is wrong with a record, what is kept for an override is in effect. -/
theorem kept_of_clear (clear : Clear registry module strict r) {defaults : Table Path Datum}
    {k : Path} {given : Value} (overrides : r.get? (Path.module.extend k) = some given)
    : let parameters := (configured registry module strict fallback source r).parameters
      ∃ value,
        keptValue? .record registry module strict (k, given) = some value
        ∧ (defaults.overlay (parameters.mapValues Value.toDatum)).find? k
          = some value.toDatum := by
  intro parameters
  have listed : (k, given) ∈ (r.below Path.module).entries := by
    rw [← Table.find?_eq_some, Record.find?_below, overrides]
  obtain ⟨_, _, kept⟩ := clear_iff.mp clear
  obtain ⟨value, kept⟩ := Option.isSome_iff_exists.mp (kept (k, given) listed)
  refine ⟨value, kept, ?_⟩
  rw [Table.find?_overlay, Table.find?_mapValues, configured_find? clear, overrides,
    Option.bind_some, kept]
  rfl

/-- What is in effect where a module is configured is its defaults with the overrides laid over. -/
theorem overlays_of_clear (clear : Clear registry module strict r)
    (effective : (configured registry module strict fallback source r).effective = .ok table)
    : Overlays registry module strict r table := by
  obtain ⟨defaults, made, rfl⟩ := effective_eq_ok.mp effective
  obtain ⟨defaultKeys, defaultValues⟩ := Component.defaults_eq_ok (c := module) made
  refine ⟨?_, fun p declared given overrides => ?_, fun k undeclared given overrides => ?_,
    fun k untouched d => ?_⟩
  · rw [Table.keys_overlay, Table.keys_mapValues, configured_keys clear, Record.below_keys,
      defaultKeys]
    rfl
  · obtain ⟨value, kept, found⟩ := kept_of_clear clear overrides
    have known : module.parameter? p.path.text = some p :=
      Component.parameter?_eq_some.mpr ⟨declared, rfl⟩
    rcases keptValue?_eq_some.mp kept with ⟨unknown, _⟩ | ⟨q, value, known', made, rfl⟩
    · exact nomatch known.symm.trans unknown
    · obtain rfl := Option.some.inj (known.symm.trans known')
      exact ⟨value, made, found⟩
  · obtain ⟨value, kept, found⟩ := kept_of_clear clear overrides
    rcases keptValue?_eq_some.mp kept with ⟨_, lenient, rfl⟩ | ⟨p, _, known, _⟩
    · exact ⟨lenient, found⟩
    · obtain ⟨declared, path⟩ := Component.parameter?_eq_some.mp known
      exact absurd path (undeclared p declared)
  · rw [Table.find?_overlay, Table.find?_mapValues, configured_find? clear, untouched]
    exact defaultValues k d

/-- What is in effect at a path depends on what the record has there alone. -/
theorem Overlays.find?_eq {strict' : Bool} {s : Record} {table' : Table Path Datum}
    (first : Overlays registry module strict r table)
    (second : Overlays registry module strict' s table') {k : Path}
    (same : s.get? (Path.module.extend k) = r.get? (Path.module.extend k))
    : table'.find? k = table.find? k := by
  cases overrides : r.get? (Path.module.extend k) with
  | none =>
      refine Option.ext fun d => ?_
      rw [first.default k overrides, second.default k (same.trans overrides)]
  | some given =>
      by_cases declared : ∃ p ∈ module.parameters, p.path = k
      · obtain ⟨p, declared, rfl⟩ := declared
        obtain ⟨value, made, found⟩ := first.declared p declared given overrides
        obtain ⟨value', made', found'⟩ := second.declared p declared given (same.trans overrides)
        obtain rfl := Except.ok.inj (made.symm.trans made')
        rw [found, found']
      · have undeclared : ∀ p ∈ module.parameters, p.path ≠ k :=
          fun p member path => declared ⟨p, member, path⟩
        rw [(first.undeclared k undeclared given overrides).2,
          (second.undeclared k undeclared given (same.trans overrides)).2]

/-- The parameters in effect are the defaults with the overrides laid over them. Another record that
is accepted and differs in one override alone has the same in effect at all other paths.
-/
theorem effective_overlays
    (made : (ofRecord registry strict fallback source r).outcome = .ok a)
    (effective : a.effective = .ok table)
    : Overlays registry a.module strict r table
      ∧ a.effectiveSteps = .ok table.byText
      ∧ ∀ p s,
          (∀ q, q ≠ Path.module.extend p → s.get? q = r.get? q) →
          ∀ strict' fallback' source' b,
            (ofRecord registry strict' fallback' source' s).outcome = .ok b →
            ∃ table', b.effective = .ok table' ∧ ∀ k, k ≠ p → table'.find? k = table.find? k := by
  obtain ⟨module, found, clear, rfl⟩ := ofRecord_eq_ok.mp made
  have overlays := overlays_of_clear clear effective
  refine ⟨overlays, by rw [effectiveSteps_eq, effective]; rfl, ?_⟩
  intro p s elsewhere strict' fallback' source' b made'
  obtain ⟨module', found', clear', rfl⟩ := ofRecord_eq_ok.mp made'
  have named : s.get? Path.module = r.get? Path.module :=
    elsewhere Path.module (Path.extend_ne rfl p).symm
  obtain ⟨reference, assigned, resolved, _⟩ := moduleOf_eq_ok.mp found
  obtain ⟨reference', assigned', resolved', _⟩ := moduleOf_eq_ok.mp found'
  obtain ⟨rfl⟩ : reference' = reference := by
    simpa using assigned'.symm.trans (named.trans assigned)
  obtain rfl := Except.ok.inj (resolved.symm.trans resolved')
  obtain ⟨defaults, defaultsMade, _⟩ := effective_eq_ok.mp effective
  obtain ⟨table', effective'⟩
      : ∃ table', (configured registry module strict' fallback' source' s).effective = .ok table' :=
    ⟨_, effective_eq_ok.mpr ⟨defaults, defaultsMade, rfl⟩⟩
  refine ⟨table', effective', fun k other => ?_⟩
  exact overlays.find?_eq (overlays_of_clear clear' effective')
    (elsewhere _ fun same => other (Path.extend_inj.mp same))

/-- A module with two integers that have defaults, one of them zero, and a text without one. -/
def counting : Component where
  reference := ⟨"n.Counting", by decide⟩
  kind := .module
  aliases := []
  description := []
  parameters :=
    [⟨⟨"rounds", by decide⟩, .scalar .int, .int 0, none, []⟩,
      ⟨⟨"width", by decide⟩, .scalar .int, .int 20, none, []⟩,
      ⟨⟨"caption", by decide⟩, .scalar .str, .missing, none, []⟩]
  declaring := .inr rfl
  distinct := by decide

/-- Assignments of the module, of its text and of a path that it does not declare. -/
def countingAssignments : List (Path × Value) :=
  [(⟨"module.further", by decide⟩, .bool true),
    (Path.module, .reference ⟨"Counting", by decide⟩),
    (⟨"module.caption", by decide⟩, .text "a")]

/-- One more override changes what is in effect at its own path; zero is a default like others. -/
theorem effective_overlays_one_override
    : let registry := Registry.Action.run [.register counting false]
      let width : Path := ⟨"width", by decide⟩
      let r := Record.ofList (countingAssignments ++ [(Path.module.extend width, .int 5)])
      let shown : List (Text × Datum) :=
        [("rounds", .int 0), ("width", .int 5), ("further", .bool true), ("caption", .text "a")]
      ∃ a b table table',
        (ofRecord registry false none none r).outcome = .ok a
        ∧ (ofRecord registry false none none (Record.ofList countingAssignments)).outcome = .ok b
        ∧ a.effective = .ok table
        ∧ table.byText.entries = shown
        ∧ Overlays registry a.module false r table
        ∧ b.effective = .ok table'
        ∧ ∀ k, k ≠ width → table'.find? k = table.find? k := by
  intro registry width r shown
  have made : (ofRecord registry false none none r).outcome
      = .ok (configured registry counting false none none r) := rfl
  have effective : (configured registry counting false none none r).effective = .ok _ := rfl
  obtain ⟨overlays, _, apart⟩ := effective_overlays made effective
  have elsewhere : ∀ q, q ≠ Path.module.extend width →
      (Record.ofList countingAssignments).get? q = r.get? q := by
    intro q other
    rw [Record.get?_ofList, Record.get?_ofList, List.filter_append]
    simp [Ne.symm other]
  obtain ⟨table', effective', same⟩ := apart width _ elsewhere false none none _ rfl
  exact ⟨_, _, _, table', made, rfl, effective, rfl, overlays, effective', same⟩

end Algorithm

end Recommender
