import Recommender.Reference

/-! Parts of texts. Cutting a text at a separator cuts both sides of each separator on their own, so
a dotted text is below another one exactly when what follows is dotted text again.
-/

namespace Recommender

namespace Text

-----------------------------------------------------------------------------------------
-- Leads
-----------------------------------------------------------------------------------------

/-- A text is left behind its own lead. -/
theorem dropLead?_append (lead t : Text) : dropLead? lead (lead ++ t) = some t := by
  simp [dropLead?]

/-- What is left behind a lead makes up the text together with the lead. -/
theorem eq_append_of_dropLead? {lead t rest : Text} (left : dropLead? lead t = some rest)
    : t = lead ++ rest := by
  unfold dropLead? at left
  split at left
  · next found =>
      obtain ⟨rest', rfl⟩ := List.isPrefixOf_iff_prefix.mp found
      simpa using left
  · cases left

/-- A lead is found exactly in the texts that go on from it. -/
theorem dropLead?_eq_some {lead t rest : Text} : dropLead? lead t = some rest ↔ t = lead ++ rest :=
  ⟨eq_append_of_dropLead?, fun same => same ▸ dropLead?_append lead rest⟩

-----------------------------------------------------------------------------------------
-- Cutting at a separator
-----------------------------------------------------------------------------------------

theorem splitOn_ne_nil (separator : CodePoint) (t : Text) : splitOn separator t ≠ [] := by
  cases t with
  | nil => simp [splitOn]
  | cons c rest =>
      rw [splitOn]
      split
      · simp
      · cases splitOn separator rest <;> simp [addToFirst]

/-- A separator cuts the parts before it from the parts behind it, by induction on the text before
it.
-/
theorem splitOn_append (separator : CodePoint) (front back : Text)
    : splitOn separator (front ++ separator :: back)
      = splitOn separator front ++ splitOn separator back := by
  induction front with
  | nil => simp [splitOn]
  | cons c rest ih =>
      simp only [List.cons_append, splitOn, ih]
      split
      · rfl
      · cases parts : splitOn separator rest with
        | nil => exact absurd parts (splitOn_ne_nil separator rest)
        | cons first others => rfl

/-- The first part begins with the first code point unless that is a separator. -/
theorem splitOn_cons {separator c : CodePoint} (other : c ≠ separator) (rest : Text)
    : ∃ first others, splitOn separator (c :: rest) = (c :: first) :: others := by
  rw [splitOn, if_neg other]
  cases splitOn separator rest with
  | nil => exact ⟨[], [], rfl⟩
  | cons first others => exact ⟨first, others, rfl⟩

/-- What holds of all code points of all parts holds of the text but for its separators. -/
theorem all_of_splitOn {separator : CodePoint} {p : CodePoint → Prop} {t : Text}
    (parts : ∀ part ∈ splitOn separator t, ∀ c ∈ part, p c)
    : ∀ c ∈ t, c = separator ∨ p c := by
  induction t with
  | nil => simp
  | cons first rest ih =>
      rw [splitOn] at parts
      by_cases same : first = separator
      · rw [if_pos same] at parts
        intro c member
        rcases List.mem_cons.mp member with rfl | later
        · exact Or.inl same
        · exact ih (fun part known => parts part (List.mem_cons_of_mem _ known)) c later
      · rw [if_neg same] at parts
        cases cut : splitOn separator rest with
        | nil => exact absurd cut (splitOn_ne_nil separator rest)
        | cons part others =>
            rw [cut, addToFirst] at parts
            intro c member
            rcases List.mem_cons.mp member with rfl | later
            · exact Or.inr (parts _ List.mem_cons_self c List.mem_cons_self)
            · refine ih ?_ c later
              rw [cut]
              intro part' known c' inside
              rcases List.mem_cons.mp known with rfl | known
              · exact parts _ List.mem_cons_self c' (List.mem_cons_of_mem _ inside)
              · exact parts part' (List.mem_cons_of_mem _ known) c' inside

-----------------------------------------------------------------------------------------
-- Joining again
-----------------------------------------------------------------------------------------

/-- Parts that are joined again make up the text, by list induction. -/
theorem join_splitOn (separator : CodePoint) (t : Text)
    : join [separator] (splitOn separator t) = t := by
  induction t with
  | nil => rfl
  | cons c rest ih =>
      obtain ⟨first, others, cut⟩ := List.exists_cons_of_ne_nil (splitOn_ne_nil separator rest)
      rw [splitOn, cut]
      rw [cut] at ih
      by_cases ends : c = separator
      · rw [if_pos ends, join, List.intercalate_cons_cons, List.nil_append, ← join, ih, ends]
        rfl
      · rw [if_neg ends, addToFirst]
        cases others with
        | nil => simpa [join] using ih
        | cons second others =>
            simpa [join, List.intercalate_cons_cons] using ih

/-- Two lists of parts are joined by one more separator, by list induction. -/
theorem join_append (separator : Text) {front back : List Text} (front' : front ≠ [])
    (back' : back ≠ [])
    : join separator (front ++ back) = join separator front ++ separator ++ join separator back := by
  induction front with
  | nil => exact absurd rfl front'
  | cons part rest ih =>
      cases rest with
      | nil =>
          obtain ⟨first, others, rfl⟩ := List.exists_cons_of_ne_nil back'
          simp [join, List.intercalate_cons_cons]
      | cons next others =>
          have later := ih (List.cons_ne_nil next others)
          simp only [join, List.cons_append, List.intercalate_cons_cons] at later ⊢
          rw [later]
          simp only [List.append_assoc]

theorem splitOn_inj {separator : CodePoint} {s t : Text}
    : splitOn separator s = splitOn separator t ↔ s = t := by
  refine ⟨fun same => ?_, fun same => same ▸ rfl⟩
  rw [← join_splitOn separator s, same, join_splitOn]

/-- The parts of a text begin with those of another one exactly when the texts are the same or the
text goes on from the other one behind a separator.
-/
theorem splitOn_prefix {separator : CodePoint} {front t : Text}
    : splitOn separator front <+: splitOn separator t
      ↔ t = front ∨ ∃ back, t = front ++ separator :: back := by
  constructor
  · rintro ⟨later, parts⟩
    by_cases none : later = []
    · rw [none, List.append_nil, splitOn_inj] at parts
      exact .inl parts.symm
    · refine .inr ⟨join [separator] later, ?_⟩
      rw [← join_splitOn separator t, ← parts, join_append _ (splitOn_ne_nil separator front) none,
        join_splitOn, List.append_assoc]
      rfl
  · rintro (rfl | ⟨back, rfl⟩)
    · exact List.prefix_refl _
    · rw [splitOn_append]
      exact List.prefix_append _ _

end Text

-----------------------------------------------------------------------------------------
-- Paths
-----------------------------------------------------------------------------------------

namespace Path

theorem eq_of_text {p q : Path} (same : p.text = q.text) : p = q := by
  cases p
  cases q
  cases same
  rfl

theorem ofText?_text (p : Path) : ofText? p.text = some p := by
  simp [ofText?, p.valid]

/-- A text is read as the path whose text it is. -/
theorem ofText?_eq_some {t : Text} {p : Path} : ofText? t = some p ↔ p.text = t := by
  constructor
  · intro read
    rw [ofText?] at read
    split at read <;> cases read
    rfl
  · rintro rfl
    exact ofText?_text p

/-- Dotted text above and below a dot is a path exactly when both are. -/
theorem isPath_append (above below : Text)
    : (above ++ "." ++ below).isPath = (above.isPath && below.isPath) := by
  have dot : above ++ "." ++ below = above ++ CodePoint.dot :: below := by
    rw [List.append_assoc]
    rfl
  rw [dot, Text.isPath, Text.splitOn_append, List.all_append]
  rfl

/-- What lies below a path is a path itself. -/
theorem ofText?_below {above p : Path} {below : Text} (found : above.below? p = some below)
    : ∃ inner, ofText? below = some inner ∧ p.text = above.text ++ "." ++ inner.text := by
  have form := Text.eq_append_of_dropLead? found
  have valid := p.valid
  rw [form, isPath_append, Bool.and_eq_true] at valid
  exact ⟨⟨below, valid.2⟩, by simp [ofText?, valid.2], form⟩

end Path

/-- A text names the reference whose name it is. -/
theorem Reference.ofText?_eq_some {t : Text} {r : Reference}
    : ofText? t = some r ↔ r.name = t := by
  rw [ofText?]
  constructor
  · intro named
    split at named
    · cases named
      rfl
    · cases named
  · rintro rfl
    rw [dif_pos r.valid]

end Recommender
