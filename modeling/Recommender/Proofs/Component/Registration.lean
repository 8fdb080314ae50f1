import Recommender.Component.Catalog
import Recommender.Proofs.Table

/-! Registries through every run of registrations and catalogs. A registration asks all it depends
on before it changes a table, so one that is refused leaves the registry as it was; and the two
tables stay in step: an alias leads to a name exactly when the component of that name has the alias.
-/

namespace Recommender

namespace Registry

-----------------------------------------------------------------------------------------
-- A registration step by step
-----------------------------------------------------------------------------------------

/-- Steps that read and change a registry and may stop in between. -/
abbrev Steps := EStateM Failure Registry

/-- Stops at an alias that another component than the one of a name owns. -/
def askFor (name other : Text) : Steps Unit := do
  match (← get).aliases.find? other with
  | some owner => if owner = name then return () else throw (.aliasTaken other owner)
  | none => return ()

/-- Takes an alias from its owner. -/
def release (other : Text) : Steps Unit :=
  modify fun r => { r with aliases := r.aliases.erase other }

/-- Gives an alias to the component of a name. -/
def grant (name other : Text) : Steps Unit :=
  modify fun r => { r with aliases := r.aliases.put other name }

/-- Registers a component one change after the other. The aliases of the component in its place are
released before it is put there and given its own.
-/
def registerSteps (c : Component) (replace : Bool) : Steps Unit := do
  if (← get).components.contains c.name && !replace then throw (.alreadyRegistered c.name)
  forM c.aliases (askFor c.name)
  forM (((← get).components.find? c.name).elim [] Component.aliases) release
  modify fun r => { r with components := r.components.put c.name c }
  forM c.aliases (grant c.name)

theorem askFor_run (r : Registry) (name other : Text)
    : (askFor name other).run r
      = match r.aliases.find? other with
        | some owner =>
          if owner = name then .ok () r else .error (.aliasTaken other owner) r
        | none => .ok () r := by
  rw [askFor, EStateM.run_bind, EStateM.run_get]
  dsimp only
  cases r.aliases.find? other with
  | none => rfl
  | some owner =>
      dsimp only
      split <;> rfl

/-- Asking for aliases changes nothing and stops at the first that is taken, by list induction. -/
theorem forM_askFor_run (r : Registry) (name : Text) (others : List Text)
    : (forM others (askFor name)).run r
      = match r.takenAlias? name others with
        | some (other, owner) => .error (.aliasTaken other owner) r
        | none => .ok () r := by
  induction others with
  | nil => rfl
  | cons other rest ih =>
      rw [takenAlias?] at ih ⊢
      rw [List.forM_cons, EStateM.run_bind, askFor_run, List.findSome?_cons]
      cases r.aliases.find? other with
      | none => exact ih
      | some owner =>
          by_cases own : owner = name
          · simpa only [if_pos own] using ih
          · simp only [if_neg own]

/-- Aliases are released one after the other, by list induction. -/
theorem forM_release_run (r : Registry) (others : List Text)
    : (forM others release).run r
      = .ok () { r with aliases := others.foldl Table.erase r.aliases } := by
  induction others generalizing r with
  | nil => rfl
  | cons other rest ih =>
      rw [List.forM_cons, EStateM.run_bind, release, EStateM.run_modify]
      exact ih _

/-- Aliases are given one after the other, by list induction. -/
theorem forM_grant_run (r : Registry) (name : Text) (others : List Text)
    : (forM others (grant name)).run r
      = .ok ()
          { r with
            aliases := others.foldl (fun owners other => owners.put other name) r.aliases } := by
  induction others generalizing r with
  | nil => rfl
  | cons other rest ih =>
      rw [List.forM_cons, EStateM.run_bind, grant, EStateM.run_modify]
      exact ih _

/-- The steps of a registration come to the registration, and leave the registry alone when they
stop: what can stop them is asked before the first change.
-/
theorem registerSteps_run (r : Registry) (c : Component) (replace : Bool)
    : (registerSteps c replace).run r
      = match r.register c replace with
        | .ok left => .ok () left
        | .error failure => .error failure r := by
  rw [registerSteps, register, EStateM.run_bind, EStateM.run_get]
  dsimp only
  split
  · rfl
  · rw [EStateM.run_bind, forM_askFor_run]
    cases r.takenAlias? c.name c.aliases with
    | some taken => rfl
    | none =>
        dsimp only
        rw [EStateM.run_bind, EStateM.run_get]
        dsimp only
        rw [EStateM.run_bind, forM_release_run]
        dsimp only
        rw [EStateM.run_bind, EStateM.run_modify]
        exact forM_grant_run _ _ _

-----------------------------------------------------------------------------------------
-- What holds between the tables
-----------------------------------------------------------------------------------------

/-- The two tables of a registry go together: a component stands under its own name, and an alias
leads to a name exactly when the component of that name has the alias.
-/
structure Sound (r : Registry) : Prop where
  named {name : Text} {c : Component} (found : r.components.find? name = some c) : c.name = name
  owned {other owner : Text}
    : r.aliases.find? other = some owner
      ↔ ∃ c, r.components.find? owner = some c ∧ other ∈ c.aliases

theorem sound_empty : empty.Sound where
  named found := by cases found
  owned {other owner} := by
    constructor
    · intro found
      cases found
    · rintro ⟨_, found, _⟩
      cases found

/-- No alias is taken exactly when each that has an owner belongs to the name. -/
theorem takenAlias?_eq_none {r : Registry} {name : Text} {others : List Text}
    : r.takenAlias? name others = none
      ↔ ∀ other ∈ others, ∀ owner, r.aliases.find? other = some owner → owner = name := by
  rw [takenAlias?, List.findSome?_eq_none_iff]
  refine forall₂_congr fun other _ => ?_
  cases r.aliases.find? other with
  | none => simp
  | some owner => simp

theorem find?_insert (r : Registry) (c : Component) (name : Text)
    : (r.insert c).components.find? name
      = if name = c.name then some c else r.components.find? name :=
  Table.find?_put r.components c.name c name

/-- After a component is put in, its aliases lead to its name, and those that only the component in
its place had lead nowhere.
-/
theorem find?_insert_aliases (r : Registry) (c : Component) (other owner : Text)
    : (r.insert c).aliases.find? other = some owner
      ↔ (other ∈ c.aliases ∧ owner = c.name)
        ∨ (other ∉ c.aliases
          ∧ (∀ old, r.components.find? c.name = some old → other ∉ old.aliases)
          ∧ r.aliases.find? other = some owner) := by
  rw [insert, Table.find?_putEach, Table.find?_eraseEach]
  by_cases own : other ∈ c.aliases
  · simp [own, eq_comm]
  · cases r.components.find? c.name with
    | none => simp [own]
    | some old => by_cases released : other ∈ old.aliases <;> simp [own, released]

/-- A component whose aliases are free is put in soundly: whether an alias is one of its own, one of
the component in its place, or neither.
-/
theorem Sound.insert {r : Registry} (sound : r.Sound) {c : Component}
    (free : r.takenAlias? c.name c.aliases = none)
    : (r.insert c).Sound where
  named {name d} found := by
    rw [find?_insert] at found
    split at found
    · next same =>
        cases found
        exact same.symm
    · exact sound.named found
  owned {other owner} := by
    rw [takenAlias?_eq_none] at free
    rw [find?_insert_aliases, find?_insert]
    by_cases same : owner = c.name
    · subst same
      rw [if_pos rfl]
      constructor
      · rintro (⟨own, _⟩ | ⟨_, unreleased, found⟩)
        · exact ⟨c, rfl, own⟩
        · obtain ⟨old, held, has⟩ := sound.owned.mp found
          exact absurd has (unreleased old held)
      · rintro ⟨d, isC, own⟩
        cases isC
        exact .inl ⟨own, rfl⟩
    · rw [if_neg same]
      constructor
      · rintro (⟨_, isC⟩ | ⟨_, _, found⟩)
        · exact absurd isC same
        · exact sound.owned.mp found
      · intro held
        have found := sound.owned.mpr held
        refine .inr ⟨fun own => same (free other own owner found), fun old inPlace has => ?_, found⟩
        -- an alias of the component in place leads to its name, and not to another
        have second := sound.owned.mpr ⟨old, inPlace, has⟩
        exact same (Option.some.inj (found.symm.trans second))

/-- A registration puts the component in, unless its name is in the way or an alias is taken. -/
theorem register_eq_ok {r left : Registry} {c : Component} {replace : Bool}
    : r.register c replace = .ok left
      ↔ (r.components.contains c.name = true → replace = true)
        ∧ r.takenAlias? c.name c.aliases = none
        ∧ r.insert c = left := by
  rw [register]
  cases r.components.contains c.name <;> cases replace <;>
    cases r.takenAlias? c.name c.aliases <;> simp

theorem Sound.register {r left : Registry} (sound : r.Sound) {c : Component} {replace : Bool}
    (made : r.register c replace = .ok left)
    : left.Sound := by
  obtain ⟨_, free, rfl⟩ := register_eq_ok.mp made
  exact sound.insert free

/-- Components are registered soundly up to the first that is refused, by list induction. -/
theorem Sound.registerAll {r : Registry} (sound : r.Sound) (replace : Bool)
    (components : List Component)
    : (r.registerAll replace components).1.Sound := by
  induction components generalizing r with
  | nil => exact sound
  | cons c rest ih =>
      rw [Registry.registerAll]
      cases made : r.register c replace with
      | error failure => exact sound
      | ok left => exact ih (sound.register made)

theorem Sound.loadCatalog {r : Registry} (sound : r.Sound) (tree : FileTree) (path : FilePath)
    (replace : Bool)
    : (r.loadCatalog tree path replace).1.Sound := by
  rw [Registry.loadCatalog]
  cases Catalog.read tree path with
  | error failure => exact sound
  | ok components =>
      have kept := sound.registerAll replace components
      dsimp only
      generalize r.registerAll replace components = done at kept
      obtain ⟨left, stopped⟩ := done
      cases stopped <;> exact kept

-----------------------------------------------------------------------------------------
-- Runs
-----------------------------------------------------------------------------------------

/-- What can be done to a registry. -/
inductive Action where
  | register (c : Component) (replace : Bool)
  | loadCatalog (tree : FileTree) (path : FilePath) (replace : Bool)

/-- The registry that an action leaves, and why the action failed if it did. -/
def Action.attempt (r : Registry) : Action → Registry × Option Failure
  | .register c replace =>
    match (registerSteps c replace).run r with
    | .ok () left => (left, none)
    | .error failure left => (left, some failure)
  | .loadCatalog tree path replace =>
    match r.loadCatalog tree path replace with
    | (left, .ok _) => (left, none)
    | (left, .error failure) => (left, some failure)

/-- The registry that is empty at first, after one action after the other. -/
def Action.run (actions : List Action) : Registry :=
  actions.foldl (fun r action => (action.attempt r).1) empty

theorem Action.attempt_register (r : Registry) (c : Component) (replace : Bool)
    : (Action.register c replace).attempt r
      = match r.register c replace with
        | .ok left => (left, none)
        | .error failure => (r, some failure) := by
  rw [attempt, registerSteps_run]
  cases r.register c replace <;> rfl

/-- An action keeps a registry sound, whether it fails or not, action by action. -/
theorem Sound.attempt {r : Registry} (sound : r.Sound) (action : Action)
    : (action.attempt r).1.Sound := by
  cases action with
  | register c replace =>
      rw [Action.attempt_register]
      cases made : r.register c replace with
      | error failure => exact sound
      | ok left => exact sound.register made
  | loadCatalog tree path replace =>
      have kept := sound.loadCatalog tree path replace
      rw [Action.attempt]
      generalize r.loadCatalog tree path replace = done at kept
      obtain ⟨left, outcome⟩ := done
      cases outcome <;> exact kept

/-- Every run leaves a sound registry, by induction on the actions. -/
theorem sound_run (actions : List Action) : (Action.run actions).Sound := by
  have onward (r : Registry) (sound : r.Sound)
      : (actions.foldl (fun r action => (Action.attempt r action).1) r).Sound := by
    induction actions generalizing r with
    | nil => exact sound
    | cons action rest ih => exact ih _ (sound.attempt action)
  exact onward empty sound_empty

end Registry

end Recommender
