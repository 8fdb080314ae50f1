import Recommender.Proofs.Component.Registration

/-! What a name stands for in a registry that was built by registrations and catalogs. Full names
come first, then aliases, then short names; no alias leads astray, so a name that is found at all
leads to a registered component, and a name that is not found is unknown or ambiguous.
-/

namespace Recommender

namespace Registry

/-- The component that a name stands for, where the owner of an alias has to be registered: an owner
that is not is an absent key.
-/
def lookUp (r : Registry) (name : Text) (kind : Option ComponentKind) : Except Failure Component :=
  match r.components.find? name, r.aliases.find? name with
  | some c, _ => .ok c
  | none, some owner =>
    match r.components.find? owner with
    | some c => .ok c
    | none => .error (.absentPath (.text owner))
  | none, none => (r.resolve name kind).mapError fun issue => .problem (.issue issue)

variable {r : Registry}

/-- A component is listed exactly when it stands under its own name. -/
theorem Sound.mem_toList (sound : r.Sound) {c : Component}
    : c ∈ r.toList ↔ r.components.find? c.name = some c := by
  constructor
  · intro listed
    obtain ⟨⟨name, d⟩, entry, same⟩ := List.mem_map.mp listed
    obtain rfl : d = c := same
    have found := Table.find?_eq_some.mpr entry
    rwa [sound.named found]
  · intro found
    exact List.mem_map.mpr ⟨(c.name, c), Table.find?_eq_some.mp found, rfl⟩

theorem resolve_of_findExactly {name : Text} {c : Component} (found : r.findExactly name = some c)
    (kind : Option ComponentKind)
    : r.resolve name kind = .ok c := by
  rw [resolve, found]

/-- A registered component is what its full name stands for. -/
theorem resolve_name {c : Component} (registered : r.components.find? c.name = some c)
    (kind : Option ComponentKind)
    : r.resolve c.name kind = .ok c := by
  refine resolve_of_findExactly ?_ kind
  rw [findExactly, registered, Option.some_or]

/-- An alias stands for the component with that full name if there is one, and else for the component
that has the alias.
-/
theorem Sound.resolve_of_owned (sound : r.Sound) {c : Component}
    (registered : r.components.find? c.name = some c) {other : Text} (has : other ∈ c.aliases)
    (kind : Option ComponentKind)
    : r.resolve other kind = .ok ((r.components.find? other).getD c) := by
  have owner : r.aliases.find? other = some c.name := sound.owned.mpr ⟨c, registered, has⟩
  refine resolve_of_findExactly ?_ kind
  rw [findExactly, owner, Option.bind_some, registered]
  cases r.components.find? other <;> rfl

/-- Whatever a name stands for is registered. -/
theorem Sound.registered_of_resolve (sound : r.Sound) {name : Text} {kind : Option ComponentKind}
    {c : Component} (found : r.resolve name kind = .ok c)
    : r.components.find? c.name = some c := by
  rw [resolve] at found
  split at found
  · next d exact =>
      cases found
      rw [findExactly, Option.or_eq_some_iff] at exact
      rcases exact with own | ⟨_, byAlias⟩
      · rwa [sound.named own]
      · obtain ⟨owner, _, own⟩ := Option.bind_eq_some_iff.mp byAlias
        rwa [sound.named own]
  · split at found
    · cases found
    · split at found
      · cases found
      · next d single =>
          cases found
          have candidate : c ∈ r.candidates name kind := by
            rw [single]
            exact List.mem_singleton_self c
          exact sound.mem_toList.mp (List.mem_filter.mp candidate).1
      · cases found

/-- A name that stands for nothing is unknown or ambiguous. -/
theorem resolve_error {name : Text} {kind : Option ComponentKind} {issue : Issue}
    (refused : r.resolve name kind = .error issue)
    : issue = .unresolved name kind ∨ ∃ candidates, issue = .ambiguous name candidates := by
  rw [resolve] at refused
  split at refused
  · cases refused
  · split at refused
    · cases refused
      exact Or.inl rfl
    · split at refused
      · cases refused
        exact Or.inl rfl
      · cases refused
      · cases refused
        exact Or.inr ⟨_, rfl⟩

/-- No alias of a sound registry leads to a name that is not registered. -/
theorem Sound.lookUp_eq (sound : r.Sound) (name : Text) (kind : Option ComponentKind)
    : r.lookUp name kind = (r.resolve name kind).mapError fun issue => .problem (.issue issue) := by
  rw [lookUp]
  split
  · next c found =>
      have same := sound.named found
      have found' : r.components.find? c.name = some c := same.symm ▸ found
      rw [← same, resolve_name found' kind]
      rfl
  · next owner absent led =>
      obtain ⟨c, registered, has⟩ := sound.owned.mp led
      have same := sound.named registered
      have registered' : r.components.find? c.name = some c := same.symm ▸ registered
      rw [registered, sound.resolve_of_owned registered' has kind, absent]
      rfl
  · rfl

-----------------------------------------------------------------------------------------
-- Registries that runs leave
-----------------------------------------------------------------------------------------

/-- A component with aliases and nothing else of interest. -/
def aliased (reference : Reference) (aliases : List Text) : Component :=
  ⟨reference, .clamp, aliases, [], [], .inl rfl, .nil⟩

/-- A name without a package. -/
def firstName : Reference := ⟨"A", by decide⟩

/-- Another name without a package. -/
def secondName : Reference := ⟨"B", by decide⟩

/-- A catalog that is not there. -/
def absentCatalog : Action :=
  .loadCatalog ⟨∅⟩ ⟨.working, ["c.json"]⟩ true

/-- In every registry that a run leaves: each component stands under its own name; an alias leads to
a name exactly when the component of that name has it; a registration that is refused changes
nothing, and one that is not keeps every other component and the order, with a component of the
same name replaced in its place; a name is found, unknown or ambiguous, and what it stands for is
what its full name stands for.
-/
theorem run_tables (actions : List Action)
    : let r := Action.run actions
      (∀ name c, r.components.find? name = some c → c.name = name)
      ∧ (∀ other owner,
          r.aliases.find? other = some owner
            ↔ ∃ c, r.components.find? owner = some c ∧ other ∈ c.aliases)
      ∧ (∀ c replace left failure,
          (Action.register c replace).attempt r = (left, some failure) → left = r)
      ∧ (∀ c replace left,
          (Action.register c replace).attempt r = (left, none)
            → left.components.keys
                = (if r.components.contains c.name then r.components.keys
                  else r.components.keys ++ [c.name])
              ∧ ∀ name,
                  left.components.find? name
                    = if name = c.name then some c else r.components.find? name)
      ∧ ∀ name kind,
          (∃ c,
            r.lookUp name kind = .ok c
            ∧ r.resolve name kind = .ok c
            ∧ ∀ narrowed, r.resolve c.name narrowed = .ok c)
          ∨ ∃ issue,
              r.lookUp name kind = .error (.problem (.issue issue))
              ∧ r.resolve name kind = .error issue
              ∧ (issue = .unresolved name kind
                ∨ ∃ candidates, issue = .ambiguous name candidates) := by
  intro r
  have sound : r.Sound := sound_run actions
  refine ⟨fun _ _ => sound.named, fun _ _ => sound.owned, ?_, ?_, ?_⟩
  · intro c replace left failure refused
    rw [Action.attempt_register] at refused
    cases made : r.register c replace with
    | ok left' =>
        rw [made] at refused
        cases refused
    | error failure' =>
        rw [made] at refused
        cases refused
        rfl
  · intro c replace left done
    rw [Action.attempt_register] at done
    cases made : r.register c replace with
    | error failure =>
        rw [made] at done
        cases done
    | ok left' =>
        rw [made] at done
        cases done
        obtain ⟨_, _, rfl⟩ := register_eq_ok.mp made
        exact ⟨Table.keys_put r.components c.name c, find?_insert r c⟩
  · intro name kind
    have strict := sound.lookUp_eq name kind
    cases answer : r.resolve name kind with
    | ok c =>
        rw [answer] at strict
        exact Or.inl ⟨c, strict, rfl, resolve_name (sound.registered_of_resolve answer)⟩
    | error issue =>
        rw [answer] at strict
        exact Or.inr ⟨issue, strict, rfl, resolve_error answer⟩

/-- An alias that a replacement drops can be given to another component; one that it keeps is refused
and everything stays as it was.
-/
theorem run_tables_replacement
    : let replaced := [.register (aliased firstName ["x", "y"]) false, absentCatalog,
        .register (aliased firstName ["y", "z"]) true]
      let r := Action.run (replaced ++ [.register (aliased secondName ["x"]) false])
      r.aliases.find? "x" = some "B"
      ∧ ((Action.register (aliased secondName ["z"]) false).attempt (Action.run replaced)).1
        = Action.run replaced := by
  intro replaced r
  obtain ⟨_, owned, _⟩ :=
    run_tables (replaced ++ [.register (aliased secondName ["x"]) false])
  obtain ⟨_, _, refused, _⟩ := run_tables replaced
  refine ⟨(owned "x" "B").mpr ⟨aliased secondName ["x"], rfl, by decide⟩, ?_⟩
  exact refused (aliased secondName ["z"]) false _ (.aliasTaken "z" "A") rfl

/-- An alias of a registered component stands for the component with that full name if there is one,
and else for its owner. A further registration under another name leaves this as it is, unless the
alias is the full name of what is registered.
-/
theorem resolve_alias (actions : List Action) {c : Component}
    (registered : c ∈ (Action.run actions).toList) {other : Text} (has : other ∈ c.aliases)
    (kind : Option ComponentKind)
    : let r := Action.run actions
      r.resolve other kind = .ok ((r.components.find? other).getD c)
      ∧ ∀ d replace left,
          r.register d replace = .ok left
            → d.name ≠ c.name
            → left.resolve other kind
              = .ok (if other = d.name then d else (r.components.find? other).getD c) := by
  intro r
  have sound : r.Sound := sound_run actions
  have found := sound.mem_toList.mp registered
  refine ⟨sound.resolve_of_owned found has kind, ?_⟩
  intro d replace left made apart
  have kept := sound.register made
  obtain ⟨_, _, rfl⟩ := register_eq_ok.mp made
  have still : (r.insert d).components.find? c.name = some c := by
    rw [find?_insert, if_neg (Ne.symm apart), found]
  rw [kept.resolve_of_owned still has kind, find?_insert]
  split <;> rfl

/-- A component with two aliases, one of which is the full name of another component. -/
theorem resolve_alias_two
    : let r := Action.run [.register (aliased firstName ["B", "C"]) false,
        .register (aliased secondName []) false]
      r.resolve "C" none = .ok (aliased firstName ["B", "C"])
      ∧ r.resolve "B" none = .ok (aliased secondName []) := by
  intro r
  have registered : aliased firstName ["B", "C"] ∈ r.toList := List.mem_cons_self
  exact ⟨(resolve_alias _ registered (by decide) none).1,
    (resolve_alias _ registered (by decide) none).1⟩

/-- Not every alias stands for its owner: a component whose full name is the alias comes first. -/
theorem resolve_alias_shadowed
    : ¬ ∀ (actions : List Action) (c : Component) (other : Text) (kind : Option ComponentKind),
        c ∈ (Action.run actions).toList
          → other ∈ c.aliases
          → (Action.run actions).resolve other kind = .ok c := by
  intro always
  let actions : List Action := [.register (aliased firstName ["B"]) false,
    .register (aliased secondName []) false]
  have owner : (Action.run actions).resolve "B" none = .ok (aliased firstName ["B"]) :=
    always actions _ _ none List.mem_cons_self List.mem_cons_self
  have shadow : (Action.run actions).resolve "B" none = .ok (aliased secondName []) := rfl
  rw [shadow] at owner
  have same : firstName.name = secondName.name :=
    congrArg Component.name (Except.ok.inj owner).symm
  exact absurd same (by decide)

end Registry

end Recommender
