import Recommender.Proofs.Table
import Recommender.Proofs.Text.Parts
import Recommender.Record

/-! Assignments below a path. A record shows exactly the assignments below a path, in its own order,
with the beginnings of their paths left out.
-/

namespace Recommender

/-- An assignment seen from a path above it. -/
def Path.inside? (above : Path) (entry : Path × Value) : Option (Path × Value) :=
  ((above.below? entry.1).bind Path.ofText?).map (·, entry.2)

/-- An assignment seen from a path above it, with the text of its path put together again. -/
def Path.outside (above : Path) (entry : Path × Value) : Text × Value :=
  (above.text ++ "." ++ entry.1.text, entry.2)

/-- Exactly the assignments below a path are seen from there, and each as it was made. -/
theorem Path.inside?_cases (above : Path) (entry : Path × Value)
    : (above.below? entry.1 = none ∧ above.inside? entry = none)
      ∨ ∃ inner,
          (above.below? entry.1).isSome = true
          ∧ above.inside? entry = some inner
          ∧ above.outside inner = (entry.1.text, entry.2) := by
  cases found : above.below? entry.1 with
  | none => exact Or.inl ⟨rfl, by simp [Path.inside?, found]⟩
  | some below =>
      obtain ⟨inner, read, same⟩ := Path.ofText?_below found
      refine Or.inr ⟨(inner, entry.2), rfl, by simp [Path.inside?, found, read], ?_⟩
      simp [Path.outside, same]

/-- An assignment is seen from a path exactly when its own path goes on from that one. -/
theorem Path.inside?_eq_some {above : Path} {entry inner : Path × Value}
    : above.inside? entry = some inner
      ↔ entry.1.text = above.text ++ "." ++ inner.1.text ∧ inner.2 = entry.2 := by
  constructor
  · intro inside
    rcases above.inside?_cases entry with ⟨_, none⟩ | ⟨_, _, some, outside⟩
    · rw [none] at inside
      cases inside
    · rw [some] at inside
      cases inside
      obtain ⟨text, value⟩ := Prod.mk.inj outside
      exact ⟨text.symm, value⟩
  · rintro ⟨text, value⟩
    have below : above.below? entry.1 = some inner.1.text := Text.dropLead?_eq_some.mpr text
    rw [Path.inside?, below, Option.bind_some, Path.ofText?_text, Option.map_some, ← value]

/-- The assignments below a path, put together again, are those of the record in its order, by list
induction.
-/
theorem Path.outside_inside (above : Path) (entries : List (Path × Value))
    : (entries.filterMap above.inside?).map above.outside
      = (entries.filter fun entry => (above.below? entry.1).isSome).map fun entry =>
          (entry.1.text, entry.2) := by
  induction entries with
  | nil => rfl
  | cons entry rest ih =>
      rcases above.inside?_cases entry with ⟨above', inside⟩ | ⟨inner, above', inside, same⟩
      · simp [inside, above', ih]
      · simp [inside, above', same, ih]

/-- Different paths below another one differ as seen from there. -/
theorem Path.distinct_inside (above : Path) {entries : List (Path × Value)}
    (distinct : (entries.map Prod.fst).Nodup)
    : ((entries.filterMap above.inside?).map Prod.fst).Nodup := by
  rw [List.Nodup, List.pairwise_map] at distinct ⊢
  rw [List.pairwise_filterMap]
  refine distinct.imp fun {first second} other inner insideFirst inner' insideSecond same => ?_
  apply other
  apply Path.eq_of_text
  rw [(Path.inside?_eq_some.mp insideFirst).1, (Path.inside?_eq_some.mp insideSecond).1, same]

/-- What a record holds below a path are its assignments seen from there. -/
theorem Record.below_entries (r : Record) (above : Path)
    : (r.below above).entries = r.values.entries.filterMap above.inside? :=
  Table.entries_ofList (above.distinct_inside r.values.distinct)

/-- The path that goes on from another one by a further path. -/
def Path.extend (above inner : Path) : Path where
  text := above.text ++ "." ++ inner.text
  valid := by rw [Path.isPath_append, above.valid, inner.valid, Bool.and_self]

theorem Path.below?_extend (above inner : Path)
    : above.below? (above.extend inner) = some inner.text :=
  Text.dropLead?_append _ _

/-- A path that does not lie below another one is none that goes on from it. -/
theorem Path.extend_ne {above p : Path} (outside : above.below? p = none) (inner : Path)
    : above.extend inner ≠ p := by
  rintro rfl
  rw [below?_extend] at outside
  cases outside

theorem Path.extend_inj {above inner other : Path}
    : above.extend inner = above.extend other ↔ inner = other := by
  refine ⟨fun same => Path.eq_of_text ?_, fun same => same ▸ rfl⟩
  have below := congrArg above.below? same
  rw [below?_extend, below?_extend] at below
  exact Option.some.inj below

/-- What is found below a path is what the record has there. -/
theorem Record.find?_below (r : Record) (above inner : Path)
    : (r.below above).find? inner = r.get? (above.extend inner) := by
  refine Option.ext fun value => ?_
  rw [Record.get?, Table.find?_eq_some, Table.find?_eq_some, Record.below_entries,
    List.mem_filterMap]
  constructor
  · rintro ⟨entry, member, inside⟩
    obtain ⟨text, same⟩ := Path.inside?_eq_some.mp inside
    have path : entry.1 = above.extend inner := Path.eq_of_text text
    rwa [← path, show value = entry.2 from same]
  · intro member
    exact ⟨_, member, Path.inside?_eq_some.mpr ⟨rfl, rfl⟩⟩

/-- Records with the same paths have values at the same paths. -/
theorem Record.get?_isSome_congr {r s : Record} (paths : s.paths = r.paths) (p : Path)
    : (s.get? p).isSome = (r.get? p).isSome := by
  have assigned (r : Record) : (r.get? p).isSome = true ↔ p ∈ r.paths := by
    rw [Option.isSome_iff_exists]
    exact Table.mem_keys.symm
  rw [Bool.eq_iff_iff, assigned, assigned, paths]

/-- The paths that a record has below another one depend on its paths alone. -/
theorem Record.below_keys (r : Record) (above : Path)
    : (r.below above).keys = r.paths.filterMap fun p => (above.below? p).bind Path.ofText? := by
  rw [Table.keys, Record.below_entries, List.map_filterMap, Record.paths, Table.keys,
    List.filterMap_map]
  congr 1
  funext entry
  rw [Function.comp_apply, Path.inside?, Option.map_map]
  cases (above.below? entry.1).bind Path.ofText? <;> rfl

end Recommender
