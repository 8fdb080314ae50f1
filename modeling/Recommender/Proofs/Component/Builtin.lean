import Recommender.Component.Builtin
import Recommender.Json.Sending
import Recommender.Proofs.Algorithm.Comparability
import Recommender.Proofs.Algorithm.Outcome
import Recommender.Proofs.Component.Order
import Recommender.Proofs.Script.Outcome

/-! The components that every host knows. They go together, so they make up the registry, where each
alias stands for its owner, and none of their parameters takes texts or has a default that cannot be
shown or sent.
-/

namespace Recommender.Builtin

/-- All names of components, the aliases among them, are apart whatever the number of processors. -/
theorem nodup_names (processors : Option Nat)
    : ((components processors).map Component.name
        ++ ((components processors).map Component.aliases).flatten).Nodup := by
  have names : (components processors).map Component.name
      = (components none).map Component.name := rfl
  have aliases : (components processors).map Component.aliases
      = (components none).map Component.aliases := rfl
  rw [names, aliases]
  decide +kernel

/-- The components go together. -/
theorem compatible (processors : Option Nat) : Compatible (components processors) := by
  obtain ⟨names, aliases, _⟩ := List.nodup_append.mp (nodup_names processors)
  exact ⟨names, List.pairwise_map.mp (List.nodup_flatten.mp aliases).2⟩

/-- The registry is made of the components without a refusal. -/
theorem ofList_components (processors : Option Nat)
    : Registry.ofList (components processors) = .ok (registry processors) := by
  obtain ⟨r, made⟩ := (Registry.ofList_isOk (components processors)).mpr (compatible processors)
  have same : registry processors = r := by
    rw [registry, Registry.ofList_eq_ok.mp made]
  rw [same, made]

theorem toList_registry (processors : Option Nat)
    : (registry processors).toList = components processors :=
  Registry.toList_of_ofList (ofList_components processors)

theorem sound_registry (processors : Option Nat) : (registry processors).Sound :=
  Registry.sound_of_ofList (ofList_components processors)

-----------------------------------------------------------------------------------------
-- Aliases
-----------------------------------------------------------------------------------------

/-- No alias is the full name of a component. -/
theorem name_notMem_aliases {processors : Option Nat} {c d : Component}
    (owner : c ∈ components processors) (other : d ∈ components processors)
    : d.name ∉ c.aliases := by
  obtain ⟨_, _, apart⟩ := List.nodup_append.mp (nodup_names processors)
  intro has
  have among : d.name ∈ ((components processors).map Component.aliases).flatten :=
    List.mem_flatten.mpr ⟨c.aliases, List.mem_map_of_mem owner, has⟩
  exact apart d.name (List.mem_map_of_mem other) d.name among rfl

/-- An alias stands for its owner, whatever kind is asked for. -/
theorem resolve_of_mem_aliases {processors : Option Nat} {c : Component}
    (known : c ∈ components processors) {other : Text} (has : other ∈ c.aliases)
    (kind : Option ComponentKind)
    : (registry processors).resolve other kind = .ok c := by
  have sound := sound_registry processors
  have registered : (registry processors).components.find? c.name = some c := by
    rwa [← sound.mem_toList, toList_registry]
  have unnamed : (registry processors).components.find? other = none := by
    refine Option.eq_none_iff_forall_ne_some.mpr fun d found => ?_
    have same := sound.named found
    have listed : d ∈ components processors := by
      rw [← toList_registry processors, sound.mem_toList, same]
      exact found
    exact name_notMem_aliases known listed (by rwa [same])
  rw [sound.resolve_of_owned registered has, unnamed]
  rfl

-----------------------------------------------------------------------------------------
-- A module named by its alias
-----------------------------------------------------------------------------------------

/-- The module with the alias SlopeOne. -/
def slopeOne : Component :=
  (modules none)[3]

/-- A reference by that alias. -/
def slopeOneReference : Reference :=
  ⟨"SlopeOne", by decide +kernel⟩

/-- A record that names the module by its alias has it as its module. -/
theorem moduleOf_slopeOne (source : Option Text) {r : Record}
    (named : r.get? Path.module = some (.reference slopeOneReference))
    : Algorithm.moduleOf (registry none) source r = .ok slopeOne := by
  have known : slopeOne ∈ components none := List.mem_append_left _ (List.getElem_mem _)
  have has : slopeOneReference.name ∈ slopeOne.aliases := List.mem_singleton_self _
  have resolved := resolve_of_mem_aliases known has (some .module)
  exact Algorithm.moduleOf_eq_ok.mpr ⟨slopeOneReference, named, resolved, rfl⟩

/-- A script that names the module and nothing else. -/
def slopeOneScript : Text :=
  "rec.module = SlopeOne"

/-- The record of this script. -/
def slopeOneRecord : Record :=
  Record.ofList [(Path.module, .reference slopeOneReference)]

theorem pairOf?_slopeOneScript
    : Script.pairOf? "rec" slopeOneScript = some (Path.module, .reference slopeOneReference) :=
  rfl

theorem toRecord_slopeOneScript (source : Option Text)
    : Script.toRecord source "rec" slopeOneScript = .ok slopeOneRecord := by
  have stripped : Script.strip slopeOneScript = .ok slopeOneScript := rfl
  have statements : Script.statementsOf slopeOneScript = [slopeOneScript] := rfl
  refine Script.toRecord_eq_ok.mpr ⟨_, ?_, rfl⟩
  rw [Script.read_pairs?, stripped]
  simp [Except.toOption, statements, pairOf?_slopeOneScript]

theorem issuesOf_slopeOneRecord (registry : Registry) (module : Component)
    : Algorithm.issuesOf registry module true slopeOneRecord = [] :=
  rfl

-----------------------------------------------------------------------------------------
-- Parameters
-----------------------------------------------------------------------------------------

/-- A parameter that takes no texts and whose default, if it has one, makes a value other than a
text.
-/
structure IsPlain (p : Parameter) : Prop where
  noText : p.type ≠ .scalar .str
  made
    : p.hasDefault = false ∨ ∃ v : Value, p.defaultValue = .ok v.toDatum ∧ ∀ t, v ≠ .text t

variable {path : Path} {minimum : Option Double} {description : Text}

theorem isPlain_missing {kind : ComponentKind}
    : IsPlain ⟨path, .component kind, .missing, minimum, description⟩ where
  noText := nofun
  made := .inl rfl

theorem isPlain_named {kind : ComponentKind} {name : Text} (named : name.isComponentName = true)
    : IsPlain ⟨path, .component kind, .text name, minimum, description⟩ where
  noText := nofun
  made := by
    refine .inr ⟨.reference ⟨name, named⟩, ?_, nofun⟩
    simp [Parameter.defaultValue, Reference.ofDatum, Reference.ofText?, named, Except.map,
      Value.toDatum]

theorem isPlain_int {n : Int}
    : IsPlain ⟨path, .scalar .int, .int n, minimum, description⟩ where
  noText := nofun
  made := .inr ⟨.int n, rfl, nofun⟩

theorem isPlain_decimal {digits : Nat} {exponent : Int}
    (finite : (decimal digits exponent).isNonFinite = false)
    : IsPlain ⟨path, .scalar .float, decimal digits exponent, minimum, description⟩ where
  noText := nofun
  made := by
    cases made : Double.ofDecimal false digits exponent with
    | finite x => exact .inr ⟨.float x, by rw [decimal, made]; rfl, nofun⟩
    | infinite | nan =>
        rw [decimal, made] at finite
        cases finite

theorem isPlain_core (processors : Option Nat) : ∀ p ∈ coreParameters processors, IsPlain p := by
  simp only [coreParameters, List.forall_mem_cons, List.not_mem_nil, false_imp_iff, implies_true,
    and_true]
  exact ⟨isPlain_missing, isPlain_decimal (by decide +kernel), isPlain_int,
    isPlain_decimal (by decide +kernel), isPlain_decimal (by decide +kernel)⟩

theorem isPlain_neighbor : ∀ p ∈ neighborParameters, IsPlain p := by
  simp only [neighborParameters, List.forall_mem_cons, List.not_mem_nil, false_imp_iff,
    implies_true, and_true]
  exact ⟨isPlain_decimal (by decide +kernel), isPlain_int, isPlain_named (by decide +kernel),
    isPlain_missing⟩

theorem isPlain_factorization : ∀ p ∈ factorizationParameters, IsPlain p := by
  simp only [factorizationParameters, List.forall_mem_cons, List.not_mem_nil, false_imp_iff,
    implies_true, and_true]
  exact ⟨isPlain_int, isPlain_decimal (by decide +kernel), isPlain_decimal (by decide +kernel),
    isPlain_int, isPlain_decimal (by decide +kernel), isPlain_named (by decide +kernel)⟩

/-- All parameters of the components are plain, list by list. -/
theorem isPlain_components (processors : Option Nat)
    : ∀ c ∈ components processors, ∀ p ∈ c.parameters, IsPlain p := by
  simp only [components, modules, parts, plain, neighborModuleParameters,
    factorizationModuleParameters, List.forall_mem_append, List.forall_mem_cons, List.not_mem_nil,
    false_imp_iff, implies_true, and_true]
  exact ⟨⟨isPlain_neighbor, isPlain_core processors⟩, ⟨isPlain_neighbor, isPlain_core processors⟩,
    ⟨isPlain_factorization, isPlain_core processors⟩, isPlain_core processors⟩

/-- Whatever a name stands for in the registry has plain parameters. -/
theorem isPlain_of_resolve {processors : Option Nat} {name : Text} {kind : Option ComponentKind}
    {c : Component} (found : (registry processors).resolve name kind = .ok c)
    : ∀ p ∈ c.parameters, IsPlain p := by
  have sound := sound_registry processors
  have listed := sound.mem_toList.mpr (sound.registered_of_resolve found)
  rw [toList_registry] at listed
  exact isPlain_components processors c listed

/-- The defaults of plain parameters are values other than texts, by list induction. -/
theorem defaultEntries_of_isPlain {parameters : List Parameter}
    (plain : ∀ p ∈ parameters, IsPlain p)
    : ∃ entries,
        ((parameters.filter Parameter.hasDefault).mapM fun p => do
            return (p.path, ← p.defaultValue))
          = Except.ok (ε := Failure) entries
        ∧ ∀ entry ∈ entries, ∃ v : Value, entry.2 = v.toDatum ∧ ∀ t, v ≠ .text t := by
  induction parameters with
  | nil => exact ⟨[], rfl, by simp⟩
  | cons p rest ih =>
      obtain ⟨isPlain, others⟩ := List.forall_mem_cons.mp plain
      obtain ⟨entries, made, values⟩ := ih others
      rw [List.filter_cons]
      split
      · next given =>
          obtain ⟨v, first, noText⟩ := isPlain.made.resolve_left (by simp [given])
          refine ⟨(p.path, v.toDatum) :: entries, ?_, ?_⟩
          · rw [List.mapM_cons, first, made]
            rfl
          · exact List.forall_mem_cons.mpr ⟨⟨v, rfl, noText⟩, values⟩
      · exact ⟨entries, made, values⟩

/-- A component with plain parameters has defaults, and they are values other than texts. -/
theorem defaults_of_isPlain {c : Component} (plain : ∀ p ∈ c.parameters, IsPlain p)
    : ∃ table,
        c.defaults = .ok table
        ∧ ∀ path d, table.find? path = some d → ∃ v : Value, d = v.toDatum ∧ ∀ t, v ≠ .text t := by
  obtain ⟨entries, made, values⟩ := defaultEntries_of_isPlain plain
  refine ⟨Table.ofList entries, by rw [Component.defaults, made]; rfl, fun path d found => ?_⟩
  rw [Table.find?_ofList] at found
  obtain ⟨entry, last, rfl⟩ := Option.map_eq_some_iff.mp found
  exact values entry (List.mem_filter.mp (List.mem_of_getLast? last)).1

/-- Whatever a record gives for plain parameters can be compared with their bounds. -/
theorem comparable_of_isPlain {registry : Registry} {module : Component}
    (plain : ∀ p ∈ module.parameters, IsPlain p) (r : Record)
    : Algorithm.Comparable registry module r := by
  intro override _ stuck
  obtain ⟨p, declared, _, type, _⟩ :=
    (Validation.incomparable_iff registry module).mp stuck
  exact (plain p declared).noText type

end Recommender.Builtin
