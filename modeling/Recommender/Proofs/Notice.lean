import Recommender.Notice

/-! Runs of logged steps. Notices never change an outcome, so a run of logged steps comes to what
the outcomes of its steps come to.
-/

namespace Recommender

-----------------------------------------------------------------------------------------
-- Runs of steps that can fail
-----------------------------------------------------------------------------------------

section Runs

variable {α β ε : Type}

/-- Runs whose steps agree on the items agree, by list induction. -/
theorem foldlM_congr {step other : β → α → Except ε β} {items : List α}
    (same : ∀ item ∈ items, ∀ b, step b item = other b item) (start : β)
    : items.foldlM step start = items.foldlM other start := by
  induction items generalizing start with
  | nil => rfl
  | cons item rest ih =>
      rw [List.foldlM_cons, List.foldlM_cons, same item List.mem_cons_self start]
      congr 1
      exact funext fun b => ih (fun i member => same i (List.mem_cons_of_mem _ member)) b

/-- Items that change nothing can be left out of a run. -/
theorem foldlM_idle {step : β → α → Except ε β} {kept : α → Bool} {items : List α}
    (idle : ∀ item ∈ items, kept item = false → ∀ b, step b item = .ok b) (start : β)
    : (items.filter kept).foldlM step start = items.foldlM step start := by
  rw [List.foldlM_filter]
  refine foldlM_congr (fun item member b => ?_) start
  split
  · rfl
  · next left => exact (idle item member (by simpa using left) b).symm

/-- A run in which it depends on the item alone whether a step gives a result gives one exactly when
each step does, by list induction.
-/
theorem foldlM_isOk {step : β → α → Except ε β} {good : α → Prop} {items : List α}
    (each : ∀ item ∈ items, ∀ b, (∃ c, step b item = .ok c) ↔ good item) (start : β)
    : (∃ result, items.foldlM step start = .ok result) ↔ ∀ item ∈ items, good item := by
  induction items generalizing start with
  | nil => simp [pure, Except.pure]
  | cons item rest ih =>
      have eachRest : ∀ other ∈ rest, ∀ b, (∃ c, step b other = .ok c) ↔ good other :=
        fun other member => each other (List.mem_cons_of_mem _ member)
      rw [List.foldlM_cons, List.forall_mem_cons, ← each item List.mem_cons_self start]
      cases first : step start item with
      | error failure => simp [Bind.bind, Except.bind]
      | ok b => simpa [Bind.bind, Except.bind] using ih eachRest b

/-- A run that fails does so at one of its items, by list induction. -/
theorem foldlM_error {step : β → α → Except ε β} {items : List α} {start : β}
    {e : ε} (failed : items.foldlM step start = .error e)
    : ∃ item ∈ items, ∃ b, step b item = .error e := by
  induction items generalizing start with
  | nil => cases failed
  | cons item rest ih =>
      rw [List.foldlM_cons] at failed
      cases made : step start item with
      | error refusal =>
          rw [made] at failed
          cases failed
          exact ⟨item, List.mem_cons_self, start, made⟩
      | ok next =>
          rw [made] at failed
          obtain ⟨other, member, b, refused⟩ := ih failed
          exact ⟨other, List.mem_cons_of_mem item member, b, refused⟩

end Runs

-----------------------------------------------------------------------------------------
-- Outcomes
-----------------------------------------------------------------------------------------

namespace Logged

variable {α β : Type}

theorem outcome_bind (first : Logged α) (next : α → Logged β)
    : (first >>= next).outcome = first.outcome >>= fun a => (next a).outcome := by
  cases outcome : first.outcome <;> simp [Bind.bind, Logged.bind, outcome, Except.bind]

/-- What goes on with a result succeeds exactly if there is one and it succeeds with that. -/
theorem outcome_bind_eq_ok {first : Logged α} {next : α → Logged β} {b : β}
    : (first >>= next).outcome = .ok b
      ↔ ∃ a, first.outcome = .ok a ∧ (next a).outcome = .ok b := by
  rw [outcome_bind]
  cases first.outcome with
  | error failure => simp [Bind.bind, Except.bind]
  | ok a => simp [Bind.bind, Except.bind]

/-- What neither a step nor any step behind it fails with, the two do not fail with. -/
theorem outcome_bind_ne {first : Logged α} {next : α → Logged β} {failure : Failure}
    (apart : first.outcome ≠ .error failure) (later : ∀ a, (next a).outcome ≠ .error failure)
    : (first >>= next).outcome ≠ .error failure := by
  rw [outcome_bind]
  cases made : first.outcome with
  | error other =>
      intro same
      obtain rfl : other = failure := Except.error.inj same
      exact apart made
  | ok a => exact later a

/-- A run over a list comes to the run of the outcomes, by list induction. -/
theorem outcome_foldlM (step : β → α → Logged β) (start : β) (items : List α)
    : (items.foldlM step start).outcome
      = items.foldlM (fun b a => (step b a).outcome) start := by
  induction items generalizing start with
  | nil => rfl
  | cons item rest ih =>
      rw [List.foldlM_cons, List.foldlM_cons, outcome_bind]
      simp only [ih]

end Logged

end Recommender
