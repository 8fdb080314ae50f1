import Mathlib
import Recommender.Proofs.Component.Resolution
import Recommender.Proofs.Text.Order

/-! The order of registration does not matter. Whether components can be registered together is a
matter of their names and aliases alone, and what a name stands for is a matter of which components
are registered.
-/

namespace Recommender

/-- Components that can be registered together: no two have the same name, and no two share an
alias.
-/
def Compatible (components : List Component) : Prop :=
  (components.map Component.name).Nodup
  ∧ components.Pairwise fun c d => c.aliases.Disjoint d.aliases

theorem Compatible.perm {components others : List Component} (compatible : Compatible components)
    (same : components.Perm others)
    : Compatible others :=
  ⟨(same.map Component.name).nodup_iff.mp compatible.1,
    (same.pairwise_iff List.disjoint_symm).mp compatible.2⟩

/-- One more component goes together with the others when its name and its aliases are new. -/
theorem compatible_concat {components : List Component} {c : Component}
    : Compatible (components ++ [c])
      ↔ Compatible components
        ∧ ∀ d ∈ components, d.name ≠ c.name ∧ d.aliases.Disjoint c.aliases := by
  simp only [Compatible, List.map_append, List.nodup_append, List.pairwise_append, List.map_cons,
    List.map_nil, List.mem_singleton, List.mem_map, List.nodup_singleton, List.pairwise_singleton,
    forall_eq, forall_exists_index, and_imp, forall_apply_eq_imp_iff₂, true_and, forall_and]
  tauto

namespace Registry

variable {r : Registry}

-----------------------------------------------------------------------------------------
-- Registering one component after the other
-----------------------------------------------------------------------------------------

/-- A component can be registered exactly when no component has its name or one of its aliases. -/
theorem Sound.register_isOk (sound : r.Sound) (c : Component)
    : (∃ left, r.register c false = .ok left)
      ↔ ∀ d ∈ r.toList, d.name ≠ c.name ∧ d.aliases.Disjoint c.aliases := by
  simp only [register_eq_ok, exists_and_left, exists_eq', and_true, takenAlias?_eq_none]
  constructor
  · rintro ⟨unnamed, free⟩ d listed
    have registered := sound.mem_toList.mp listed
    have apart : d.name ≠ c.name := by
      intro same
      rw [same] at registered
      exact Bool.noConfusion (unnamed (by rw [Table.contains, registered]; rfl))
    refine ⟨apart, fun other has shared => apart ?_⟩
    exact free other shared d.name (sound.owned.mpr ⟨d, registered, has⟩)
  · intro apart
    constructor
    · intro present
      obtain ⟨d, found⟩ := Option.isSome_iff_exists.mp present
      have same := sound.named found
      exact absurd same (apart d (sound.mem_toList.mpr (same.symm ▸ found))).1
    · intro other shared owner led
      obtain ⟨d, found, has⟩ := sound.owned.mp led
      have same := sound.named found
      exact absurd shared ((apart d (sound.mem_toList.mpr (same.symm ▸ found))).2 has)

/-- A component that is registered and replaces none is listed last. -/
theorem toList_of_register {left : Registry} {c : Component}
    (made : r.register c false = .ok left)
    : left.toList = r.toList ++ [c] := by
  obtain ⟨unnamed, _, rfl⟩ := register_eq_ok.mp made
  have absent : c.name ∉ r.components.entries.map Prod.fst := by
    intro present
    have found : r.components.contains c.name = true :=
      Option.isSome_iff_exists.mpr (Table.mem_keys.mp present)
    exact Bool.noConfusion (unnamed found)
  change (Table.putEntry c.name c r.components.entries).map Prod.snd = _
  rw [Table.putEntry_of_absent absent, List.map_append]
  rfl

/-- Components that are registered are listed in their order, by list induction. -/
theorem toList_of_registerAll {left : Registry} {components : List Component}
    (made : r.registerAll false components = (left, none))
    : left.toList = r.toList ++ components := by
  induction components generalizing r with
  | nil =>
      cases made
      rw [List.append_nil]
  | cons c rest ih =>
      rw [registerAll] at made
      cases first : r.register c false with
      | error failure =>
          rw [first] at made
          cases made
      | ok next =>
          rw [first] at made
          rw [ih made, toList_of_register first, List.append_assoc]
          rfl

/-- Components can be registered exactly when they go together with those that are, by list
induction.
-/
theorem Sound.registerAll_isOk (sound : r.Sound) (compatible : Compatible r.toList)
    (components : List Component)
    : (∃ left, r.registerAll false components = (left, none))
      ↔ Compatible (r.toList ++ components) := by
  induction components generalizing r with
  | nil =>
      rw [List.append_nil]
      exact ⟨fun _ => compatible, fun _ => ⟨r, rfl⟩⟩
  | cons c rest ih =>
      have grouped : r.toList ++ c :: rest = r.toList ++ [c] ++ rest := by simp
      rw [Registry.registerAll, grouped]
      cases made : r.register c false with
      | ok next =>
          have listed := toList_of_register made
          have fits := (sound.register_isOk c).mp ⟨next, made⟩
          have compatible' : Compatible next.toList := by
            rw [listed]
            exact compatible_concat.mpr ⟨compatible, fits⟩
          rw [← listed]
          exact ih (sound.register made) compatible'
      | error failure =>
          constructor
          · rintro ⟨left, stopped⟩
            cases stopped
          · intro together
            have first : Compatible (r.toList ++ [c]) :=
              ⟨together.1.sublist ((List.sublist_append_left _ rest).map _),
                together.2.sublist (List.sublist_append_left _ rest)⟩
            obtain ⟨left, ok⟩ := (sound.register_isOk c).mpr (compatible_concat.mp first).2
            rw [made] at ok
            cases ok

theorem ofList_eq_ok {components : List Component}
    : ofList components = .ok r ↔ empty.registerAll false components = (r, none) := by
  rw [ofList]
  split
  · next left same => rw [same, Except.ok.injEq, Prod.mk.injEq, and_iff_left rfl]
  · next left failure same => simp [same]

/-- A list of components makes a registry exactly when no two have the same name or share an
alias.
-/
theorem ofList_isOk (components : List Component)
    : (∃ r, ofList components = .ok r) ↔ Compatible components := by
  simp only [ofList_eq_ok]
  exact sound_empty.registerAll_isOk ⟨.nil, .nil⟩ components

theorem sound_of_ofList {components : List Component} (made : ofList components = .ok r)
    : r.Sound := by
  have kept := sound_empty.registerAll false components
  rwa [ofList_eq_ok.mp made] at kept

theorem toList_of_ofList {components : List Component} (made : ofList components = .ok r)
    : r.toList = components :=
  toList_of_registerAll (ofList_eq_ok.mp made)

-----------------------------------------------------------------------------------------
-- Registries with the same components
-----------------------------------------------------------------------------------------

variable {s : Registry}

/-- Registries that list the same components find the same under each full name. -/
theorem Sound.find?_congr (soundR : r.Sound) (soundS : s.Sound)
    (same : ∀ c, c ∈ r.toList ↔ c ∈ s.toList) (name : Text)
    : r.components.find? name = s.components.find? name := by
  have listed {t : Registry} (sound : t.Sound) (c : Component)
      : t.components.find? name = some c ↔ c ∈ t.toList ∧ c.name = name := by
    rw [sound.mem_toList]
    constructor
    · intro found
      have own := sound.named found
      exact ⟨own.symm ▸ found, own⟩
    · rintro ⟨found, rfl⟩
      exact found
  refine Option.ext fun c => ?_
  rw [listed soundR, listed soundS, same]

/-- Registries that list the same components lead each alias to the same name. -/
theorem Sound.owner_congr (soundR : r.Sound) (soundS : s.Sound)
    (same : ∀ c, c ∈ r.toList ↔ c ∈ s.toList) (other : Text)
    : r.aliases.find? other = s.aliases.find? other := by
  refine Option.ext fun owner => ?_
  rw [soundR.owned, soundS.owned, soundR.find?_congr soundS same]

/-- What a name stands for does not depend on the order of the components: neither the one candidate
for a short name nor the sorted names of several.
-/
theorem Sound.resolve_congr (soundR : r.Sound) (soundS : s.Sound)
    (same : r.toList.Perm s.toList) (name : Text) (kind : Option ComponentKind)
    : r.resolve name kind = s.resolve name kind := by
  have exactly : r.findExactly name = s.findExactly name := by
    have found := soundR.find?_congr soundS fun _ => same.mem_iff
    rw [findExactly, findExactly, found, soundR.owner_congr soundS fun _ => same.mem_iff]
    cases s.aliases.find? name with
    | none => rfl
    | some owner => rw [Option.bind_some, Option.bind_some, found]
  have short : (r.candidates name kind).Perm (s.candidates name kind) := same.filter _
  rw [resolve, resolve, exactly]
  split
  · rfl
  · split
    · rfl
    · generalize r.candidates name kind = several at short
      generalize s.candidates name kind = others at short
      cases several with
      | nil => rw [short.nil_eq]
      | cons c rest =>
          cases rest with
          | nil => rw [List.singleton_perm.mp short]
          | cons d rest =>
              have length := short.length_eq
              cases others with
              | nil => cases length
              | cons e more =>
                  cases more with
                  | nil => cases length
                  | cons f more =>
                      dsimp only
                      rw [Text.mergeSort_congr (short.map Component.name)]

/-- However the components of a list are ordered, they make a registry exactly when no two have the
same name or share an alias; and then each name stands for the same component, or fails to with the
same issue, and the components of each kind are the same.
-/
theorem ofList_perm {components others : List Component} (same : components.Perm others)
    : ((∃ r, ofList components = .ok r) ↔ Compatible components)
      ∧ ((∃ s, ofList others = .ok s) ↔ Compatible components)
      ∧ ∀ r s,
          ofList components = .ok r
            → ofList others = .ok s
            → (∀ name kind, r.resolve name kind = s.resolve name kind)
              ∧ ∀ kind, (r.byKind kind).Perm (s.byKind kind) := by
  refine ⟨ofList_isOk components, ?_, ?_⟩
  · rw [ofList_isOk others]
    exact ⟨fun compatible => compatible.perm same.symm, fun compatible => compatible.perm same⟩
  · intro r s madeR madeS
    have listed : r.toList.Perm s.toList := by
      rwa [toList_of_ofList madeR, toList_of_ofList madeS]
    exact ⟨(sound_of_ofList madeR).resolve_congr (sound_of_ofList madeS) listed,
      fun kind => listed.filter _⟩

/-- Two components with one short name, in either order. -/
theorem ofList_perm_ambiguous
    : let first := aliased ⟨"q.T", by decide⟩ ["A"]
      let second := aliased ⟨"p.T", by decide⟩ ["q"]
      ∃ r s,
        ofList [first, second] = .ok r
        ∧ ofList [second, first] = .ok s
        ∧ r.resolve "T" none = .error (.ambiguous "T" ["p.T", "q.T"])
        ∧ s.resolve "T" none = .error (.ambiguous "T" ["p.T", "q.T"]) := by
  intro first second
  have ambiguous : ((empty.insert first).insert second).resolve "T" none
      = .error (.ambiguous "T" ["p.T", "q.T"]) := by
    cbv
  obtain ⟨_, _, agree⟩ := ofList_perm (List.Perm.swap second first [])
  obtain ⟨answers, _⟩ := agree _ _ rfl rfl
  exact ⟨_, _, rfl, rfl, ambiguous, (answers "T" none).symm.trans ambiguous⟩

end Registry

end Recommender
