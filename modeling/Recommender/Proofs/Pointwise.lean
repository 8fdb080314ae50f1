import Mathlib.Data.List.Forall2

/-! Lists related member by member. A step that may fail makes of a whole list, in its order, what
it makes of the members.
-/

namespace Recommender.Pointwise

variable {α β γ ε : Type} {R : α → β → Prop}

/-- Results found for all members of a list, in its order, by list induction. -/
theorem filterMap_iff {f : α → Option γ} {l : List α} {found : List γ}
    : List.Forall₂ (fun a c => f a = some c) l found
      ↔ (∀ a ∈ l, (f a).isSome = true) ∧ l.filterMap f = found := by
  induction l generalizing found with
  | nil => exact ⟨fun | .nil => ⟨by simp, rfl⟩, fun ⟨_, empty⟩ => empty ▸ .nil⟩
  | cons a rest ih =>
      rw [List.forall_mem_cons, List.filterMap_cons]
      constructor
      · intro all
        cases all with
        | cons first others =>
            obtain ⟨later, same⟩ := ih.mp others
            rw [first]
            exact ⟨⟨rfl, later⟩, congrArg (_ :: ·) same⟩
      · rintro ⟨⟨first, later⟩, same⟩
        obtain ⟨c, first⟩ := Option.isSome_iff_exists.mp first
        rw [first] at same
        exact same ▸ .cons first (ih.mpr ⟨later, rfl⟩)

/-- Steps that all succeed, in the order of a list, by list induction. -/
theorem mapM_iff {f : α → Except ε β} {l : List α} {made : List β}
    : l.mapM f = .ok made ↔ List.Forall₂ (fun a b => f a = .ok b) l made := by
  induction l generalizing made with
  | nil => exact ⟨fun | rfl => .nil, fun | .nil => rfl⟩
  | cons a rest ih =>
      rw [List.mapM_cons]
      constructor
      · intro all
        cases first : f a with
        | error failure => simp [first, bind, Except.bind] at all
        | ok b =>
            cases later : rest.mapM f with
            | error failure => simp [first, later, bind, Except.bind] at all
            | ok others =>
                rw [first, later] at all
                obtain rfl := Except.ok.inj all
                exact .cons first (ih.mp later)
      · intro all
        cases all with
        | cons first others => rw [first, ih.mpr others]; rfl

/-- Lists give the same lists exactly when their members do, side by side, by induction on the
relation.
-/
theorem map_eq_iff {f : α → γ} {g : β → γ} {P : α → Prop} {l : List α} {l' : List β}
    (related : List.Forall₂ R l l') (same : ∀ {a b}, R a b → (f a = g b ↔ P a))
    : l.map f = l'.map g ↔ ∀ a ∈ l, P a := by
  induction related with
  | nil => simp
  | cons first _ ih =>
      rw [List.map_cons, List.map_cons, List.cons.injEq, List.forall_mem_cons, same first, ih]

/-- Lists whose members give the same, side by side, give the same list. -/
theorem map_eq {f : α → γ} {g : β → γ} {l : List α} {l' : List β}
    (related : List.Forall₂ R l l') (same : ∀ {a b}, R a b → f a = g b)
    : l.map f = l'.map g :=
  (map_eq_iff related fun pair => iff_true_intro (same pair)).mpr fun _ _ => trivial

/-- The last members of related lists are related. -/
theorem getLast?_rel {l : List α} {l' : List β} (related : List.Forall₂ R l l')
    : Option.Rel R l.getLast? l'.getLast? := by
  have reversed := List.forall₂_reverse_iff.mpr related
  rw [← List.head?_reverse, ← List.head?_reverse]
  generalize l.reverse = first at reversed
  generalize l'.reverse = second at reversed
  cases reversed with
  | nil => exact .none
  | cons last _ => exact .some last

/-- Each member of the second list stands beside one of the first, by induction on the relation. -/
theorem exists_left {l : List α} {l' : List β} (related : List.Forall₂ R l l') {b : β}
    (member : b ∈ l')
    : ∃ a ∈ l, R a b := by
  induction related with
  | nil => exact nomatch member
  | @cons a _ _ _ first _ ih =>
      rcases List.mem_cons.mp member with rfl | later
      · exact ⟨a, List.mem_cons_self, first⟩
      · obtain ⟨c, member, other⟩ := ih later
        exact ⟨c, List.mem_cons_of_mem _ member, other⟩

/-- Each member of the first list stands beside one of the second. -/
theorem exists_right {l : List α} {l' : List β} (related : List.Forall₂ R l l') {a : α}
    (member : a ∈ l)
    : ∃ b ∈ l', R a b :=
  exists_left (R := flip R) related.flip member

/-- Two relations in a row, member by member, by induction on the relations. -/
theorem comp_iff {S : β → γ → Prop} {l : List α} {l' : List γ}
    : (∃ between, List.Forall₂ R l between ∧ List.Forall₂ S between l')
      ↔ List.Forall₂ (fun a c => ∃ b, R a b ∧ S b c) l l' := by
  constructor
  · rintro ⟨between, first, second⟩
    induction first generalizing l' with
    | nil =>
        cases second
        exact .nil
    | cons one _ ih =>
        cases second with
        | cons other later => exact .cons ⟨_, one, other⟩ (ih later)
  · intro both
    induction both with
    | nil => exact ⟨[], .nil, .nil⟩
    | cons pair _ ih =>
        obtain ⟨b, one, other⟩ := pair
        obtain ⟨between, first, second⟩ := ih
        exact ⟨b :: between, .cons one first, .cons other second⟩

end Recommender.Pointwise
