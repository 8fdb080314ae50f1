import Mathlib.Data.List.Basic
import Recommender.Files.Tree
import Recommender.Proofs.Table
import Recommender.Proofs.Text.Order

/-! Files taken out of a file tree. What stands at every other place stays, so a path that leads to
another place leads there still, and a directory lists the files that are left.
-/

namespace Recommender

/-- The directory that a place is right in. -/
def FilePath.parent (p : FilePath) : FilePath :=
  { p with parts := p.parts.dropLast }

namespace FileTree

/-- File trees in which nothing lies below a file and no file is named as the directory above. -/
structure Sound (tree : FileTree) : Prop where
  leaf
    : ∀ {place : FilePath} {bytes : List UInt8},
        tree.nodes.find? place = some (.file bytes)
          → ∀ other ∈ tree.nodes.keys, isBelow place other = false
  named
    : ∀ {place : FilePath} {bytes : List UInt8},
        tree.nodes.find? place = some (.file bytes)
          → ∃ name, place.parts.getLast? = some name ∧ name ≠ FilePath.upward

/-- A tree without a file. The directory that the file was in stays. -/
def delete (tree : FileTree) (f : FilePath) : FileTree :=
  ⟨(tree.nodes.erase f).put f.parent .directory⟩

-----------------------------------------------------------------------------------------
-- Places
-----------------------------------------------------------------------------------------

theorem isBelow_iff {above place : FilePath}
    : isBelow above place = true
      ↔ place.anchor = above.anchor
        ∧ above.parts <+: place.parts
        ∧ above.parts.length < place.parts.length := by
  simp [isBelow, and_assoc]

/-- The places above a file are its directory and the places above that. -/
theorem isBelow_parent {f above : FilePath} (nonempty : f.parts ≠ [])
    : isBelow above f = true ↔ above = f.parent ∨ isBelow above f.parent = true := by
  have whole : f.parts = f.parent.parts ++ [f.parts.getLast nonempty] :=
    (List.dropLast_concat_getLast nonempty).symm
  have length : f.parts.length = f.parent.parts.length + 1 := by
    rw [whole, List.length_append, List.length_singleton]
  rw [isBelow_iff, isBelow_iff]
  constructor
  · rintro ⟨anchor, lead, shorter⟩
    rw [whole, List.prefix_concat_iff] at lead
    rcases lead with same | inner
    · rw [same, ← whole] at shorter
      omega
    · by_cases equal : above.parts.length = f.parent.parts.length
      · have parts := inner.eq_of_length equal
        refine Or.inl ?_
        calc above = ⟨above.anchor, above.parts⟩ := rfl
          _ = f.parent := by rw [← anchor, parts]; rfl
      · exact Or.inr ⟨anchor, inner, by have := inner.length_le; omega⟩
  · rintro (rfl | ⟨anchor, inner, shorter⟩)
    · exact ⟨rfl, List.dropLast_prefix f.parts, by omega⟩
    · exact ⟨anchor, inner.trans (List.dropLast_prefix f.parts), by omega⟩

variable {tree : FileTree} {f : FilePath} {bytes : List UInt8}

theorem parts_ne_nil (sound : tree.Sound) (present : tree.nodes.find? f = some (.file bytes))
    : f.parts ≠ [] := by
  obtain ⟨name, last, _⟩ := sound.named present
  rintro empty
  rw [empty] at last
  cases last

theorem isTop_of_file (sound : tree.Sound) (present : tree.nodes.find? f = some (.file bytes))
    : isTop f = false := by
  obtain ⟨name, last, proper⟩ := sound.named present
  rw [isTop, List.all_eq_false]
  exact ⟨name, List.mem_of_getLast? last, by simpa using proper⟩

theorem find?_delete (tree : FileTree) (f place : FilePath)
    : (tree.delete f).nodes.find? place
      = if place = f.parent then some .directory
        else if place = f then none
        else tree.nodes.find? place := by
  rw [delete, Table.find?_put, Table.find?_erase]

theorem mem_keys_delete {key : FilePath}
    : key ∈ (tree.delete f).nodes.keys ↔ key = f.parent ∨ key ≠ f ∧ key ∈ tree.nodes.keys := by
  rw [Table.mem_keys, Table.mem_keys, find?_delete]
  by_cases holds : key = f.parent
  · simp [holds]
  · by_cases gone : key = f <;> simp [holds, gone]

theorem parent_ne (nonempty : f.parts ≠ []) : f.parent ≠ f := by
  intro same
  have shorter := congrArg (fun p => p.parts.length) same
  have positive := List.length_pos_iff.mpr nonempty
  simp only [FilePath.parent, List.length_dropLast] at shorter
  omega

/-- The directory of a file is no file. -/
theorem parent_no_file (sound : tree.Sound) (present : tree.nodes.find? f = some (.file bytes))
    {node : FileNode} (found : tree.nodes.find? f.parent = some node)
    : node = .directory := by
  cases node with
  | directory => rfl
  | file content =>
      have below : isBelow f.parent f = true :=
        (isBelow_parent (parts_ne_nil sound present)).mpr (Or.inl rfl)
      have above := sound.leaf found f (Table.mem_keys.mpr ⟨_, present⟩)
      rw [above] at below
      cases below

/-- Nothing lies below the place of a file that is gone. -/
theorem none_below_delete (sound : tree.Sound) (present : tree.nodes.find? f = some (.file bytes))
    : (tree.delete f).nodes.keys.any (isBelow f) = false := by
  rw [List.any_eq_false]
  intro key member below
  rcases mem_keys_delete.mp member with rfl | ⟨_, kept⟩
  · have shorter := (isBelow_iff.mp below).2.2
    simp only [FilePath.parent, List.length_dropLast] at shorter
    omega
  · rw [sound.leaf present key kept] at below
    cases below

/-- Where something lay below, something lies below still, the directory of the file aside. -/
theorem any_below_delete (sound : tree.Sound) (present : tree.nodes.find? f = some (.file bytes))
    {place : FilePath} (other : place ≠ f.parent)
    : (tree.delete f).nodes.keys.any (isBelow place) = tree.nodes.keys.any (isBelow place) := by
  have nonempty := parts_ne_nil sound present
  rw [Bool.eq_iff_iff, List.any_eq_true, List.any_eq_true]
  constructor
  · rintro ⟨key, member, below⟩
    rcases mem_keys_delete.mp member with rfl | ⟨_, kept⟩
    · exact ⟨f, Table.mem_keys.mpr ⟨_, present⟩, (isBelow_parent nonempty).mpr (Or.inr below)⟩
    · exact ⟨key, kept, below⟩
  · rintro ⟨key, member, below⟩
    by_cases own : key = f
    · subst own
      exact ⟨key.parent, mem_keys_delete.mpr (Or.inl rfl),
        ((isBelow_parent nonempty).mp below).resolve_left other⟩
    · exact ⟨key, mem_keys_delete.mpr (Or.inr ⟨own, member⟩), below⟩

/-- At every place but that of the file stands what stood there before. -/
theorem nodeAt?_delete (sound : tree.Sound) (present : tree.nodes.find? f = some (.file bytes))
    (place : FilePath)
    : (tree.delete f).nodeAt? place = if place = f then none else tree.nodeAt? place := by
  have nonempty := parts_ne_nil sound present
  by_cases own : place = f
  · subst own
    rw [if_pos rfl, nodeAt?, find?_delete, if_neg (parent_ne nonempty).symm, if_pos rfl,
      isTop_of_file sound present, none_below_delete sound present]
    rfl
  rw [if_neg own, nodeAt?, nodeAt?, find?_delete, if_neg own]
  by_cases holds : place = f.parent
  · subst holds
    have some : tree.nodes.keys.any (isBelow f.parent) = true :=
      List.any_eq_true.mpr
        ⟨f, Table.mem_keys.mpr ⟨_, present⟩, (isBelow_parent nonempty).mpr (Or.inl rfl)⟩
    rw [if_pos rfl]
    cases found : tree.nodes.find? f.parent with
    | none => simp [some]
    | some node => rw [parent_no_file sound present found]; rfl
  · rw [if_neg holds, any_below_delete sound present holds]

-----------------------------------------------------------------------------------------
-- Paths
-----------------------------------------------------------------------------------------

/-- A path leads where it led before, unless it led to the file or beyond it, by list induction. -/
theorem follow_delete (sound : tree.Sound) (present : tree.nodes.find? f = some (.file bytes))
    (here : FilePath) (parts : List Text)
    : (tree.delete f).follow here parts = tree.follow here parts
      ∨ (tree.delete f).follow here parts = .error .notFound
        ∧ (tree.follow here parts = .error .notDirectory
          ∨ tree.follow here parts = .ok (f, .file bytes)) := by
  have fileAt : tree.nodeAt? f = some (.file bytes) := by
    rw [nodeAt?, present]
    rfl
  induction parts generalizing here with
  | nil =>
      by_cases own : here = f
      · subst own
        refine Or.inr ⟨?_, Or.inr ?_⟩
        · rw [follow, nodeAt?_delete sound present, if_pos rfl]
        · rw [follow, fileAt]
      · rw [follow, follow, nodeAt?_delete sound present, if_neg own]
        exact Or.inl rfl
  | cons part rest ih =>
      by_cases own : here = f
      · subst own
        refine Or.inr ⟨?_, Or.inl ?_⟩
        · rw [follow, nodeAt?_delete sound present, if_pos rfl]
        · rw [follow, fileAt]
      · rw [follow, follow, nodeAt?_delete sound present, if_neg own]
        cases tree.nodeAt? here with
        | none => exact Or.inl rfl
        | some node =>
            cases node with
            | file => exact Or.inl rfl
            | directory =>
                dsimp only
                split
                · exact Or.inl rfl
                · exact ih (step here part)

theorem find_delete (sound : tree.Sound) (present : tree.nodes.find? f = some (.file bytes))
    (path : FilePath)
    : (tree.delete f).find path = tree.find path
      ∨ (tree.delete f).find path = .error ⟨.notFound, path.text⟩
        ∧ (tree.find path = .error ⟨.notDirectory, path.text⟩
          ∨ tree.find path = .ok (f, .file bytes)) := by
  rw [find, find]
  split
  · exact Or.inl rfl
  · split
    · exact Or.inl rfl
    · rcases follow_delete sound present { path with parts := [] } path.parts with
        same | ⟨gone, before | before⟩
      · exact Or.inl (by rw [same])
      · exact Or.inr ⟨by rw [gone]; rfl, Or.inl (by rw [before]; rfl)⟩
      · exact Or.inr ⟨by rw [gone]; rfl, Or.inr (by rw [before]; rfl)⟩

/-- A path leads to a directory if it did before. -/
theorem isDirectory_delete (sound : tree.Sound)
    (present : tree.nodes.find? f = some (.file bytes)) (path : FilePath)
    : (tree.delete f).isDirectory path = tree.isDirectory path := by
  rw [isDirectory, isDirectory, find?, find?]
  rcases find_delete sound present path with same | ⟨gone, before | before⟩
  · rw [same]
  · rw [gone, before]
    rfl
  · rw [gone, before]
    rfl

theorem find_of_isDirectory {path : FilePath} (directory : tree.isDirectory path = .ok true)
    : ∃ place, tree.find path = .ok (place, .directory) := by
  rw [isDirectory, find?] at directory
  split at directory
  · next place node leads =>
      cases node with
      | file => cases directory
      | directory => exact ⟨place, leads⟩
  · split at directory <;> cases directory

/-- A path with a part more leads from where the path leads, by list induction. -/
theorem follow_concat {here place : FilePath} {parts : List Text}
    (leads : tree.follow here parts = .ok (place, .directory)) (name : Text)
    : tree.follow here (parts ++ [name]) = tree.follow place [name] := by
  induction parts generalizing here with
  | nil =>
      rw [follow] at leads
      split at leads
      · cases leads
        rfl
      · cases leads
  | cons part rest ih =>
      rw [follow] at leads
      rw [List.cons_append, follow]
      split at leads
      · cases leads
      · cases leads
      · split at leads
        · cases leads
        · next short =>
            rw [if_neg short]
            exact ih leads

/-- A path leads to a place with what stands there, by list induction. -/
theorem nodeAt?_of_follow {here place : FilePath} {parts : List Text} {node : FileNode}
    (leads : tree.follow here parts = .ok (place, node))
    : tree.nodeAt? place = some node := by
  induction parts generalizing here with
  | nil =>
      rw [follow] at leads
      split at leads
      · next found =>
          cases leads
          exact found
      · cases leads
  | cons part rest ih =>
      rw [follow] at leads
      split at leads
      · cases leads
      · cases leads
      · split at leads
        · cases leads
        · exact ih leads

/-- From a directory a proper name leads to an entry right in it, if anywhere. -/
theorem follow_child {place : FilePath} (holds : tree.nodeAt? place = some .directory) {name : Text}
    (proper : name ≠ FilePath.upward)
    : tree.follow place [name] = .error .nameTooLong
      ∨ tree.follow place [name] = .error .notFound
      ∨ ∃ node, tree.follow place [name] = .ok (place.child name, node) := by
  rw [follow, holds]
  dsimp only
  split
  · exact Or.inl rfl
  · rw [step, if_neg proper, follow]
    cases tree.nodeAt? (place.child name) with
    | none => exact Or.inr (Or.inl rfl)
    | some node => exact Or.inr (Or.inr ⟨node, rfl⟩)

theorem find_child {path place : FilePath} (leads : tree.find path = .ok (place, .directory))
    {name : Text} (proper : name ≠ FilePath.upward)
    : (∃ fault, tree.find (path.child name) = .error fault ∧ fault.cause ≠ .notDirectory)
      ∨ ∃ node, tree.find (path.child name) = .ok (place.child name, node) := by
  have inside : tree.follow { path with parts := [] } path.parts = .ok (place, .directory) := by
    rw [find] at leads
    split at leads
    · cases leads
    · split at leads
      · cases leads
      · cases result : tree.follow { path with parts := [] } path.parts with
        | error cause => rw [result] at leads; cases leads
        | ok found => rw [result] at leads; exact congrArg _ (Except.ok.inj leads)
  have further : tree.follow { path.child name with parts := [] } (path.child name).parts
      = tree.follow place [name] :=
    follow_concat inside name
  rw [find]
  split
  · exact Or.inl ⟨_, rfl, by simp⟩
  · split
    · exact Or.inl ⟨_, rfl, by simp⟩
    · rw [further]
      rcases follow_child (nodeAt?_of_follow inside) proper with long | absent | ⟨node, found⟩
      · rw [long]
        exact Or.inl ⟨_, rfl, by simp⟩
      · rw [absent]
        exact Or.inl ⟨_, rfl, by simp⟩
      · rw [found]
        exact Or.inr ⟨node, rfl⟩

/-- A file that a directory shows is read as before, unless it is the one that is gone. -/
theorem read_child_delete (sound : tree.Sound) (present : tree.nodes.find? f = some (.file bytes))
    {path place : FilePath} (leads : tree.find path = .ok (place, .directory)) {name : Text}
    (proper : name ≠ FilePath.upward) (other : place.child name ≠ f)
    : (tree.delete f).read (path.child name) = tree.read (path.child name) := by
  have same : (tree.delete f).find (path.child name) = tree.find (path.child name) := by
    rcases find_delete sound present (path.child name) with same | ⟨_, before | before⟩
    · exact same
    · rcases find_child leads proper with ⟨fault, stopped, cause⟩ | ⟨node, found⟩
      · rw [before] at stopped
        cases stopped
        exact absurd rfl cause
      · rw [before] at found
        cases found
    · rcases find_child leads proper with ⟨fault, stopped, _⟩ | ⟨node, found⟩
      · rw [before] at stopped
        cases stopped
      · rw [before] at found
        exact absurd (congrArg Prod.fst (Except.ok.inj found)).symm other
  rw [read, read, same]

-----------------------------------------------------------------------------------------
-- Directories
-----------------------------------------------------------------------------------------

theorem name_child (directory : FilePath) (name : Text) : (directory.child name).name = name := by
  rw [FilePath.name, FilePath.child, List.getLastD_concat]

/-- A file right in a directory is shown by its name. -/
theorem fileName?_eq_some {directory : FilePath} {entry : FilePath × FileNode} {name : Text}
    : fileName? directory entry = some name
      ↔ entry.1 = directory.child name ∧ ∃ bytes, entry.2 = .file bytes := by
  obtain ⟨place, node⟩ := entry
  cases node with
  | directory => simp [fileName?]
  | file bytes =>
      simp only [fileName?, Option.ite_none_right_eq_some, Option.some.injEq, FileNode.file.injEq,
        exists_eq', and_true]
      constructor
      · rintro ⟨inside, rfl⟩
        exact inside
      · rintro rfl
        rw [name_child]
        exact ⟨rfl, rfl⟩

/-- The names of the files right in a directory, without the one that is gone. -/
theorem fileNames_delete (sound : tree.Sound) (present : tree.nodes.find? f = some (.file bytes))
    (place : FilePath)
    : (tree.delete f).nodes.entries.filterMap (fileName? place)
      = (tree.nodes.entries.filterMap (fileName? place)).filter (place.child · ≠ f) := by
  have nonempty := parts_ne_nil sound present
  have before (node : FileNode) (found : (tree.nodes.erase f).find? f.parent = some node)
      : fileName? place (f.parent, node) = none := by
    rw [Table.find?_erase, if_neg (parent_ne nonempty)] at found
    rw [parent_no_file sound present found]
    rfl
  rw [delete, Table.filterMap_put before rfl, Table.erase, List.filterMap_filter,
    List.filter_filterMap]
  refine List.filterMap_congr fun entry _ => ?_
  cases shown : fileName? place entry with
  | none => simp
  | some name =>
      have form := (fileName?_eq_some.mp shown).1
      by_cases gone : place.child name = f <;> simp [form, gone, Option.filter]

theorem shownName?_eq_some {directory place : FilePath} {name : Text}
    : shownName? directory place = some name
      ↔ name ≠ FilePath.upward
        ∧ ∃ rest, place = ⟨directory.anchor, directory.parts ++ name :: rest⟩ := by
  rw [shownName?, Option.ite_none_right_eq_some, Option.filter_eq_some_iff, isBelow_iff]
  constructor
  · rintro ⟨⟨anchor, ⟨rest, parts⟩, shorter⟩, there, proper⟩
    refine ⟨by simpa using proper, rest.tail, ?_⟩
    rw [← parts, List.getElem?_append_right le_rfl, Nat.sub_self, ← List.head?_eq_getElem?] at there
    calc place = ⟨place.anchor, place.parts⟩ := rfl
      _ = ⟨directory.anchor, directory.parts ++ name :: rest.tail⟩ := by
          rw [anchor, ← parts, List.eq_cons_of_mem_head? there, List.tail_cons]
  · rintro ⟨proper, rest, rfl⟩
    exact ⟨⟨rfl, List.prefix_append _ _, by simp⟩, by simp, by simpa using proper⟩

/-- A directory shows the names that it showed before, the one of the file that is gone aside. -/
theorem shown_delete (sound : tree.Sound) (present : tree.nodes.find? f = some (.file bytes))
    {place : FilePath} {name : Text} (other : place.child name ≠ f)
    : name ∈ (tree.delete f).nodes.keys.filterMap (shownName? place)
      ↔ name ∈ tree.nodes.keys.filterMap (shownName? place) := by
  obtain ⟨last, whole⟩ : ∃ last, f = f.parent.child last :=
    ⟨f.parts.getLast (parts_ne_nil sound present),
      congrArg (FilePath.mk f.anchor) (List.dropLast_concat_getLast _).symm⟩
  rw [List.mem_filterMap, List.mem_filterMap]
  constructor
  · rintro ⟨key, member, shown⟩
    rcases mem_keys_delete.mp member with rfl | ⟨_, kept⟩
    · obtain ⟨proper, rest, form⟩ := shownName?_eq_some.mp shown
      refine ⟨f, Table.mem_keys.mpr ⟨_, present⟩,
        shownName?_eq_some.mpr ⟨proper, rest ++ [last], ?_⟩⟩
      rw [whole, form, FilePath.child, List.append_assoc, List.cons_append]
    · exact ⟨key, kept, shown⟩
  · rintro ⟨key, member, shown⟩
    by_cases own : key = f
    · subst own
      obtain ⟨proper, rest, form⟩ := shownName?_eq_some.mp shown
      refine ⟨key.parent, mem_keys_delete.mpr (Or.inl rfl),
        shownName?_eq_some.mpr ⟨proper, rest.dropLast, ?_⟩⟩
      have further : rest ≠ [] := by
        rintro rfl
        exact other form.symm
      rw [form, FilePath.parent, List.dropLast_append_cons, List.dropLast_cons_of_ne_nil further]
    · exact ⟨key, mem_keys_delete.mpr (Or.inr ⟨own, member⟩), shown⟩

/-- A directory lists its files as before, without the one that is gone, if that could be asked for
by the path to the directory.
-/
theorem files_delete (sound : tree.Sound) (present : tree.nodes.find? f = some (.file bytes))
    {path place : FilePath} (leads : tree.find path = .ok (place, .directory))
    (short : ∀ name, place.child name = f → isLongPath (path.child name) = false)
    : (∃ fault,
        tree.files path = .error fault
        ∧ (tree.delete f).files path = .error fault)
      ∨ ∃ names : List Text,
          tree.files path = .ok (names.map path.child)
          ∧ (tree.delete f).files path
            = .ok ((names.filter (place.child · ≠ f)).map path.child)
          ∧ ∀ name ∈ names,
              ∃ content, tree.nodes.find? (place.child name) = some (.file content) := by
  have leadsStill : (tree.delete f).find path = .ok (place, .directory) := by
    rcases find_delete sound present path with same | ⟨_, before | before⟩
    · rw [same, leads]
    · rw [before] at leads
      cases leads
    · rw [before] at leads
      cases leads
  have long : (tree.delete f).longName? path place = tree.longName? path place := by
    refine Text.find?_mergeSort_congr fun name long => shown_delete sound present fun gone => ?_
    rw [short name gone] at long
    cases long
  rw [files, files, leads, leadsStill]
  dsimp only
  rw [long]
  cases tree.longName? path place with
  | some name => exact Or.inl ⟨_, rfl, rfl⟩
  | none =>
      refine Or.inr ⟨(tree.nodes.entries.filterMap (fileName? place)).mergeSort Text.before, rfl,
        ?_, fun name member => ?_⟩
      · rw [← Text.mergeSort_filter, ← fileNames_delete sound present]
      · obtain ⟨entry, inside, shown⟩ := List.mem_filterMap.mp (List.mem_mergeSort.mp member)
        obtain ⟨form, content, node⟩ := fileName?_eq_some.mp shown
        exact ⟨content, form ▸ node ▸ Table.find?_eq_some.mpr inside⟩

end FileTree
end Recommender
