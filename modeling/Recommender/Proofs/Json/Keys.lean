import Mathlib.Data.Nat.Init
import Recommender.Json.Parser
import Recommender.Proofs.Table

/-! Keys of the objects that are read. However often a name stands in an object of a text, the
object that is read has it once.
-/

namespace Recommender

/-- What stands in the table of some entries is one of them. -/
theorem Table.mem_of_mem_ofList {κ α : Type} [DecidableEq κ] {entries : List (κ × α)}
    {entry : κ × α} (member : entry ∈ (ofList entries).entries)
    : entry ∈ entries := by
  have found := find?_eq_some.mpr member
  rw [find?_ofList, Option.map_eq_some_iff] at found
  obtain ⟨last, isLast, value⟩ := found
  obtain ⟨listed, key⟩ := List.mem_filter.mp (List.mem_of_getLast? isLast)
  have same : last = entry := Prod.ext (of_decide_eq_true key) value
  exact same ▸ listed

/-- Each object that is reached through objects alone has each of its keys once. -/
inductive Datum.DistinctKeys : Datum → Prop where
  | map {entries : List (Text × Datum)} (keys : (entries.map Prod.fst).Nodup)
      (values : ∀ entry ∈ entries, entry.2.DistinctKeys) :
      Datum.DistinctKeys (.map entries)
  | other {d : Datum} (noObject : ∀ entries, d ≠ .map entries) : Datum.DistinctKeys d

namespace Json

/-- What is read, if anything is, has a property. -/
def Yields {α : Type} (P : α → Prop) : Except Stop (α × Text) → Prop
  | .ok (found, _) => P found
  | .error _ => True

theorem Yields.bind {α β : Type} {P : α → Prop} {Q : β → Prop} {first : Except Stop (α × Text)}
    {next : α × Text → Except Stop (β × Text)} (yields : Yields P first)
    (more : ∀ a rest, P a → Yields Q (next (a, rest)))
    : Yields Q (first >>= next) := by
  cases first with
  | error => trivial
  | ok found => exact more found.1 found.2 yields

theorem yields_any {α : Type} (outcome : Except Stop (α × Text))
    : Yields (fun _ => True) outcome := by
  cases outcome <;> trivial

/-- A word or a number is no object. -/
theorem yields_scalar (rules : Rules) (t : Text) : Yields Datum.DistinctKeys (scalar rules t) := by
  have noObject : ∀ entry ∈ words, ∀ entries : List (Text × Datum),
      entry.2.1 ≠ some (.map entries) ∧ entry.2.2 ≠ .map entries := by
    simp [words]
  rw [scalar]
  split
  · next word d _ found =>
      have listed := List.mem_of_find?_eq_some found
      exact .other fun entries same => (noObject _ listed entries).1 (congrArg some same)
  · next word d found =>
      split
      · exact .other fun entries => (noObject _ (List.mem_of_find?_eq_some found) entries).2
      · trivial
  · split
    · trivial
    · split
      · exact .other fun _ => (nomatch ·)
      · split
        · exact .other fun _ => (nomatch ·)
        · trivial

section OneDeeper

variable {rules : Rules} {depth : Nat}

/-- The values of members that are read. -/
def MembersDistinct (entries : List (Text × Datum)) : Prop :=
  ∀ entry ∈ entries, entry.2.DistinctKeys

theorem yields_value (readsMembers : ∀ t, Yields MembersDistinct (members rules depth t)) (t : Text)
    : Yields Datum.DistinctKeys (value rules (depth + 1) t) := by
  rw [value.eq_def]
  dsimp only
  split
  · exact (yields_any _).bind fun _ _ _ => .other fun _ => (nomatch ·)
  · split
    · exact .other fun _ => (nomatch ·)
    · exact (yields_any _).bind fun _ _ _ => .other fun _ => (nomatch ·)
  · split
    · exact .map .nil fun _ => (nomatch ·)
    · refine (readsMembers _).bind fun entries rest each => ?_
      exact .map (Table.ofList entries).distinct fun entry member =>
        each entry (Table.mem_of_mem_ofList member)
  · exact yields_scalar rules t

theorem yields_members (readsValue : ∀ t, Yields Datum.DistinctKeys (value rules depth t))
    (readsMembers : ∀ t, Yields MembersDistinct (members rules depth t)) (t : Text)
    : Yields MembersDistinct (members rules (depth + 1) t) := by
  rw [members.eq_def]
  dsimp only
  split
  · refine (yields_any _).bind fun name rest _ => ?_
    dsimp only
    split
    · refine (readsValue _).bind fun member rest distinct => ?_
      dsimp only
      split
      · exact List.forall_mem_singleton.mpr distinct
      · exact (readsMembers _).bind fun _ _ others => List.forall_mem_cons.mpr ⟨distinct, others⟩
      · trivial
    · trivial
  · trivial

end OneDeeper

/-- Values and members are read with distinct keys, by induction on the depth. -/
theorem yields_depth (rules : Rules) (depth : Nat)
    : (∀ t, Yields Datum.DistinctKeys (value rules depth t))
      ∧ ∀ t, Yields MembersDistinct (members rules depth t) := by
  induction depth with
  | zero =>
      refine ⟨fun t => ?_, fun t => ?_⟩
      · rw [value]
        trivial
      · rw [members]
        trivial
  | succ depth ih =>
      obtain ⟨readsValue, readsMembers⟩ := ih
      exact ⟨yields_value readsMembers, yields_members readsValue readsMembers⟩

/-- Whatever a text denotes has distinct keys in its objects. -/
theorem distinctKeys_of_parse {rules : Rules} {t : Text} {d : Datum} (read : parse rules t = .ok d)
    : d.DistinctKeys := by
  rw [parse.eq_def] at read
  split at read
  · cases read
  · rw [whole] at read
    have distinct := (yields_depth rules (2 * t.length + 1)).1 (skipSpace t)
    cases inside : value rules (2 * t.length + 1) (skipSpace t) with
    | error stop =>
        rw [inside] at read
        cases read
    | ok found =>
        rw [inside] at read distinct
        simp only [Bind.bind, Except.bind] at read
        split at read <;> cases read
        exact distinct

end Json
end Recommender
