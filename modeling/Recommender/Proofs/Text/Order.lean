import Mathlib.Order.Fin.Basic
import Recommender.Text.Basic

/-! Code-point order. It is a linear order of texts, so a sorted list is determined by its members
and sorting goes together with leaving members out.
-/

namespace Recommender.Text

/-- The first code points in which two texts differ decide. -/
theorem before_cons {c d : CodePoint} {s t : Text}
    : before (c :: s) (d :: t) = true ↔ c < d ∨ c = d ∧ before s t = true := by
  rw [before]
  split
  · next same => simp [same]
  · next apart => simp [apart]

theorem before_trans {first second third : Text} (earlier : before first second = true)
    (later : before second third = true)
    : before first third = true := by
  induction first generalizing second third with
  | nil => rfl
  | cons c s ih =>
      cases second with
      | nil => cases earlier
      | cons d t =>
          cases third with
          | nil => cases later
          | cons e u =>
              rw [before_cons] at earlier later ⊢
              rcases earlier with less | ⟨rfl, inner⟩
              · rcases later with lessToo | ⟨rfl, _⟩
                · exact Or.inl (less.trans lessToo)
                · exact Or.inl less
              · rcases later with less | ⟨rfl, innerToo⟩
                · exact Or.inl less
                · exact Or.inr ⟨rfl, ih inner innerToo⟩

theorem before_total (first second : Text)
    : (before first second || before second first) = true := by
  induction first generalizing second with
  | nil => rfl
  | cons c s ih =>
      cases second with
      | nil => rfl
      | cons d t =>
          rw [Bool.or_eq_true, before_cons, before_cons]
          rcases lt_trichotomy c d with less | rfl | more
          · exact Or.inl (Or.inl less)
          · have inner := ih t
            rw [Bool.or_eq_true] at inner
            exact inner.imp (fun held => Or.inr ⟨rfl, held⟩) fun held => Or.inr ⟨rfl, held⟩
          · exact Or.inr (Or.inl more)

theorem before_antisymm {first second : Text} (earlier : before first second = true)
    (later : before second first = true)
    : first = second := by
  induction first generalizing second with
  | nil =>
      cases second with
      | nil => rfl
      | cons => cases later
  | cons c s ih =>
      cases second with
      | nil => cases earlier
      | cons d t =>
          rw [before_cons] at earlier later
          rcases earlier with less | ⟨rfl, inner⟩
          · rcases later with more | ⟨rfl, _⟩
            · exact absurd (less.trans more) (lt_irrefl c)
            · exact absurd less (lt_irrefl _)
          · rcases later with more | ⟨_, innerToo⟩
            · exact absurd more (lt_irrefl c)
            · rw [ih inner innerToo]

theorem pairwise_mergeSort (texts : List Text)
    : (texts.mergeSort before).Pairwise (fun first second => before first second = true) :=
  @List.pairwise_mergeSort Text before (fun _ _ _ => before_trans) before_total texts

/-- Sorting does not see the order that texts come in. -/
theorem mergeSort_congr {texts others : List Text} (same : texts.Perm others)
    : texts.mergeSort before = others.mergeSort before := by
  have sorted : (texts.mergeSort before).Perm (others.mergeSort before) :=
    (List.mergeSort_perm texts before).trans
      (same.trans (List.mergeSort_perm others before).symm)
  exact sorted.eq_of_pairwise (fun _ _ _ _ => before_antisymm) (pairwise_mergeSort texts)
    (pairwise_mergeSort others)

/-- Members can be left out before or after sorting. -/
theorem mergeSort_filter (kept : Text → Bool) (texts : List Text)
    : (texts.filter kept).mergeSort before = (texts.mergeSort before).filter kept := by
  have same := (List.mergeSort_perm (texts.filter kept) before).trans
    ((List.mergeSort_perm texts before).filter kept).symm
  exact same.eq_of_pairwise (fun _ _ _ _ => before_antisymm) (pairwise_mergeSort _)
    ((pairwise_mergeSort texts).filter kept)

/-- The first of the texts in order is the one before all of them. -/
theorem head?_mergeSort {texts : List Text} {first : Text}
    : (texts.mergeSort before).head? = some first
      ↔ first ∈ texts ∧ ∀ t ∈ texts, before first t = true := by
  have sorted := pairwise_mergeSort texts
  have members (t : Text) : t ∈ texts ↔ t ∈ texts.mergeSort before := List.mem_mergeSort.symm
  simp only [members]
  generalize texts.mergeSort before = ordered at sorted
  cases ordered with
  | nil => simp
  | cons least rest =>
      have self : before least least = true := by simpa using before_total least least
      have behind := (List.pairwise_cons.mp sorted).1
      rw [List.head?_cons, Option.some.injEq]
      constructor
      · rintro rfl
        exact ⟨List.mem_cons_self, List.forall_mem_cons.mpr ⟨self, behind⟩⟩
      · rintro ⟨inside, all⟩
        rcases List.mem_cons.mp inside with same | later
        · exact same.symm
        · exact before_antisymm (behind first later) (all least List.mem_cons_self)

/-- The first text in order that has a property depends only on which texts have it. -/
theorem find?_mergeSort_congr {p : Text → Bool} {texts others : List Text}
    (same : ∀ t, p t = true → (t ∈ texts ↔ t ∈ others))
    : (texts.mergeSort before).find? p = (others.mergeSort before).find? p := by
  have members (t : Text) : t ∈ texts.filter p ↔ t ∈ others.filter p := by
    rw [List.mem_filter, List.mem_filter]
    exact and_congr_left (same t)
  rw [← List.head?_filter, ← List.head?_filter, ← mergeSort_filter, ← mergeSort_filter]
  refine Option.ext fun first => ?_
  simp only [head?_mergeSort, members]

end Recommender.Text
