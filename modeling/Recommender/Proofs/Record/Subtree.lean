import Mathlib.Data.List.Basic
import Mathlib.Data.List.Nodup
import Recommender.Proofs.Record.Assignments
import Recommender.Proofs.Record.Below

/-! Subtrees of a record. A path lies below another one exactly when it has all identifiers of that
one and further ones behind them, so that no path beside another one is taken for one below it. What
lies below a path makes up a record of its own, whose subtrees are those of the first record further
down.
-/

namespace Recommender

-----------------------------------------------------------------------------------------
-- Identifiers
-----------------------------------------------------------------------------------------

namespace Path

/-- The identifiers of a path, in order. -/
def identifiers (p : Path) : List Text :=
  Text.splitOn CodePoint.dot p.text

theorem isSome_below? (above p : Path)
    : (above.below? p).isSome = p.text.startsWith (above.text ++ ".") := by
  rw [below?, Text.dropLead?, Text.startsWith]
  cases (above.text ++ Text.ofString ".").isPrefixOf p.text <;> rfl

/-- A path begins with the text of another one and a dot exactly when it goes on from that one. -/
theorem startsWith_iff {above p : Path}
    : p.text.startsWith (above.text ++ ".") = true ↔ ∃ inner, p = above.extend inner := by
  rw [← isSome_below?]
  constructor
  · intro some
    obtain ⟨below, found⟩ := Option.isSome_iff_exists.mp some
    obtain ⟨inner, -, text⟩ := ofText?_below found
    exact ⟨inner, eq_of_text text⟩
  · rintro ⟨inner, rfl⟩
    rw [below?_extend]
    rfl

/-- No path begins with its own text and a dot. -/
theorem not_startsWith_self (p : Path) : p.text.startsWith (p.text ++ ".") = false := by
  rw [Bool.eq_false_iff, ne_eq, startsWith_iff]
  rintro ⟨inner, same⟩
  have length := congrArg (List.length ∘ text) same
  simp only [Function.comp_apply, extend, List.length_append] at length
  have dot : (Text.ofString ".").length = 1 := by decide
  omega

/-- A path begins with the identifiers of another one exactly when it is that path or its text goes
on from that of the other one behind a dot.
-/
theorem identifiers_prefix {above p : Path}
    : above.identifiers <+: p.identifiers
      ↔ p = above ∨ p.text.startsWith (above.text ++ ".") = true := by
  rw [identifiers, identifiers, Text.splitOn_prefix, ← isSome_below?, Option.isSome_iff_exists]
  refine or_congr ⟨eq_of_text, congrArg text⟩ (exists_congr fun back => ?_)
  rw [below?, Text.dropLead?_eq_some, List.append_assoc]
  rfl

end Path

-----------------------------------------------------------------------------------------
-- Parts of a record
-----------------------------------------------------------------------------------------

namespace Record

/-- What stands behind a path and a dot in the paths of a record, with the values there. -/
def behind (r : Record) (above : Path) : List (Text × Value) :=
  r.values.entries.filterMap fun entry => (above.below? entry.1).map (·, entry.2)

/-- The assignments that are neither at a path nor below it. -/
def beside (r : Record) (p : Path) : List (Path × Value) :=
  r.values.entries.filter fun entry => entry.1 ≠ p && !entry.1.text.startsWith (p.text ++ ".")

/-- Lists that part a list, each with its members in the order of the list. -/
structure Parts {α : Type} (whole : List α) (parts : List (List α)) : Prop where
  complete : whole.Perm parts.flatten
  ordered : ∀ part ∈ parts, part.Sublist whole

/-- Members with one property, with another one that no member has besides, and with neither. -/
theorem Parts.of_filter {α : Type} {l : List α} {p q : α → Bool}
    (apart : ∀ a ∈ l, q a = true → p a = false)
    : Parts l [l.filter p, l.filter q, l.filter fun a => !q a && !p a] := by
  have second : (l.filter (!p ·)).filter q = l.filter q := by
    rw [List.filter_filter]
    refine List.filter_congr fun a member => ?_
    cases holds : q a <;> simp [apart a member, holds]
  have third : (l.filter (!p ·)).filter (!q ·) = l.filter fun a => !q a && !p a := by
    rw [List.filter_filter]
  constructor
  · have first := (List.filter_append_perm p l).symm
    have others := (List.filter_append_perm q (l.filter (!p ·))).symm
    rw [second, third] at others
    simpa using first.trans (others.append_left _)
  · simp [List.filter_sublist]

/-- What stands behind a path is a path itself, so that a subtree leaves out none of it. -/
theorem behind_eq (r : Record) (above : Path)
    : r.behind above = (r.below above).entries.map fun entry => (entry.1.text, entry.2) := by
  rw [behind, below_entries, List.map_filterMap]
  refine List.filterMap_congr fun entry _ => ?_
  rw [Path.inside?]
  cases found : above.below? entry.1 with
  | none => rfl
  | some below =>
      obtain ⟨inner, read, -⟩ := Path.ofText?_below found
      rw [Option.bind_some, read, ← Path.ofText?_eq_some.mp read]
      rfl

/-- The assignments below a path with the path put in front of theirs again. -/
theorem map_extend_below (r : Record) (above : Path)
    : (r.below above).entries.map (fun entry => (above.extend entry.1, entry.2))
      = r.values.entries.filter fun entry => entry.1.text.startsWith (above.text ++ ".") := by
  rw [below_entries, ← List.filterMap_eq_filter, List.map_filterMap]
  refine List.filterMap_congr fun entry _ => ?_
  rcases above.inside?_cases entry with ⟨outside, none⟩ | ⟨inner, under, some, same⟩
  · rw [none, Option.guard, ← Path.isSome_below?, outside]
    rfl
  · rw [some, Option.guard, ← Path.isSome_below?, under]
    obtain ⟨text, value⟩ := Prod.mk.inj same
    have path : above.extend inner.1 = entry.1 := Path.eq_of_text text
    rw [Option.map_some, path, value]
    rfl

/-- The assignment at a path, if there is one. -/
theorem filter_at (r : Record) (p : Path)
    : r.values.entries.filter (fun entry => entry.1 = p) = (r.get? p).toList.map (p, ·) := by
  have found := Table.filterMap_key r.values.distinct p fun v => some (p, v)
  calc r.values.entries.filter (fun entry => entry.1 = p)
      = r.values.entries.filterMap fun entry =>
          if entry.1 = p then some (p, entry.2) else none := by
        rw [← List.filterMap_eq_filter]
        refine List.filterMap_congr fun entry _ => ?_
        by_cases same : entry.1 = p
        · subst same
          simp [Option.guard]
        · simp [Option.guard, same]
    _ = ((r.get? p).bind fun v => some (p, v)).toList := found
    _ = (r.get? p).toList.map (p, ·) := by cases r.get? p <;> rfl

/-- Every assignment is below a path, at it or beside it. -/
theorem parts_of_path (r : Record) (p : Path)
    : Parts r.values.entries
        [(r.below p).entries.map fun entry => (p.extend entry.1, entry.2),
          (r.get? p).toList.map (p, ·),
          r.beside p] := by
  rw [map_extend_below, ← filter_at, beside]
  have apart : ∀ entry ∈ r.values.entries,
      decide (entry.1 = p) = true → entry.1.text.startsWith (p.text ++ ".") = false := by
    intro entry _ same
    rw [of_decide_eq_true same, Path.not_startsWith_self]
  simpa using Parts.of_filter apart

/-- Assignments that are given from outside make up a record that has them as they are. -/
theorem update_entries (t : Table Path Value)
    : empty.update (t.entries.map fun entry => (.text entry.1.text, entry.2.toDatum))
      = ⟨⟨t, t.entries, false⟩, none⟩ := by
  rw [update_toDatum, assignAll_empty, ofList_eq, Table.ofList_entries]

theorem subtree_text (r : Record) (p : Path) : r.subtree (.text p.text) = .ok (r.below p) := by
  rw [subtree, pathOf?, Path.ofText?_text]

/-- What is seen from a path below another one is what is seen from the two joined. -/
theorem inside?_extend (a b : Path) (entry : Path × Value)
    : (a.inside? entry).bind b.inside? = (a.extend b).inside? entry := by
  refine Option.ext fun inner => ?_
  simp only [Option.bind_eq_some_iff, Path.inside?_eq_some]
  constructor
  · rintro ⟨middle, ⟨text, value⟩, text', value'⟩
    rw [text, text', value', value]
    simp [Path.extend]
  · rintro ⟨text, value⟩
    refine ⟨(b.extend inner.1, entry.2), ⟨?_, rfl⟩, rfl, value⟩
    rw [text]
    simp [Path.extend]

/-- What is below a path in a record of what is below another one is below the two joined. -/
theorem below_below (r : Record) (a b : Path) {s : Record} (loaded : s.values = r.below a)
    : s.below b = r.below (a.extend b) := by
  apply Table.eq_of_entries
  rw [below_entries, below_entries, loaded, below_entries, List.filterMap_filterMap]
  exact List.filterMap_congr fun entry _ => inside?_extend a b entry

/-- The subtree of a record below a path has everything that stands behind the path and a dot: valid
and distinct paths, which make up a record of their own, and a subtree of that record is the subtree
of the first one below the two paths joined. Every assignment of the record is below the path as one
entry of the subtree, at it or beside it, in the order of the record. Paths at a path or below it
are those that begin with its identifiers.
-/
theorem subtree_composes (r : Record) (a b : Path)
    : ∃ t s u,
        r.subtree (.text a.text) = .ok t
        ∧ t.entries.map (fun entry => (entry.1.text, entry.2)) = r.behind a
        ∧ ((r.behind a).map Prod.fst).Nodup
        ∧ (∀ entry ∈ r.behind a, entry.1.isPath = true)
        ∧ empty.update (t.entries.map fun entry => (.text entry.1.text, entry.2.toDatum))
          = ⟨s, none⟩
        ∧ s.values = t
        ∧ s.subtree (.text b.text) = .ok u
        ∧ r.subtree (.text (a.text ++ "." ++ b.text)) = .ok u
        ∧ Parts r.values.entries
            [t.entries.map fun entry => (a.extend entry.1, entry.2),
              (r.get? a).toList.map (a, ·),
              r.beside a]
        ∧ (∀ entry ∈ r.values.entries,
            entry.1.text.startsWith (a.text ++ ".") = true
            → ∃! k : Path,
                entry.1.text = a.text ++ "." ++ k.text ∧ t.find? k = some entry.2)
        ∧ ∀ p : Path,
            a.identifiers <+: p.identifiers
            ↔ p = a ∨ p.text.startsWith (a.text ++ ".") = true := by
  have whole := r.behind_eq a
  refine ⟨r.below a, ⟨r.below a, (r.below a).entries, false⟩, r.below (a.extend b),
    subtree_text r a, whole.symm, ?_, ?_, update_entries _, rfl, ?_, subtree_text r (a.extend b),
    parts_of_path r a, ?_, fun p => Path.identifiers_prefix⟩
  · have texts : Function.Injective Path.text := fun _ _ => Path.eq_of_text
    have distinct := (r.below a).distinct.map texts
    rw [List.map_map] at distinct
    rw [whole, List.map_map]
    exact distinct
  · intro entry member
    rw [whole] at member
    obtain ⟨inner, -, rfl⟩ := List.mem_map.mp member
    exact inner.1.valid
  · rw [subtree_text, below_below r a b rfl]
  · intro entry member under
    obtain ⟨k, same⟩ := Path.startsWith_iff.mp under
    refine ⟨k, ⟨congrArg Path.text same, ?_⟩, ?_⟩
    · rw [find?_below, ← same]
      exact Table.find?_eq_some.mpr member
    · rintro other ⟨text, -⟩
      apply Path.extend_inj.mp
      rw [← same]
      exact (Path.eq_of_text text).symm

/-- A path whose text merely begins like another one is beside it. -/
example
    : let a : Path := ⟨"a", by decide⟩
      let sibling : Path × Value := (⟨"ax.y", by decide⟩, .int 2)
      let r := ofList [(⟨"a.b.c", by decide⟩, .int 1), sibling, (a, .int 3)]
      (r.below a).keys.map Path.text = (["b.c"] : List Text) ∧ r.beside a = [sibling] := by
  decide

end Record

end Recommender
