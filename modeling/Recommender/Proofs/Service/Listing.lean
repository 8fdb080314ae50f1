import Mathlib
import Recommender.Proofs.Algorithm.Accounting
import Recommender.Proofs.Files.Deletion
import Recommender.Proofs.Files.Newlines
import Recommender.Proofs.Notice
import Recommender.Service.Basic

/-! Listing the algorithms of the search directories. A file that fails with a problem is passed
over, so the listing is what it would be without the file; any other failure ends the listing.
-/

namespace Recommender

namespace Loading

/-- A file that a directory shows is loaded as before, unless it is the one that is gone. -/
theorem algorithm_delete {tree : FileTree} {f : FilePath} {bytes : List UInt8}
    (sound : tree.Sound) (present : tree.nodes.find? f = some (.file bytes))
    {path place : FilePath} (leads : tree.find path = .ok (place, .directory)) {name : Text}
    (proper : name ≠ FilePath.upward) (other : place.child name ≠ f) (settings : Settings)
    (registry : Registry) (strict : Bool)
    : algorithm (tree.delete f) settings registry strict (path.child name)
      = algorithm tree settings registry strict (path.child name) := by
  have content : readText (tree.delete f) (path.child name) = readText tree (path.child name) := by
    rw [readText, readText, FileTree.read_child_delete sound present leads proper other]
  rw [algorithm, algorithm, record, record, content]

theorem find_of_isDirectory {tree : FileTree} {directory : FilePath}
    (asked : isDirectory tree directory = .ok true)
    : ∃ place, tree.find directory = .ok (place, .directory) := by
  refine FileTree.find_of_isDirectory ?_
  rw [isDirectory] at asked
  cases given : tree.isDirectory directory with
  | error fault =>
      rw [given] at asked
      cases asked
  | ok answer =>
      rw [given] at asked
      exact congrArg _ (Except.ok.inj asked)

/-- A directory shows its configurations as before, without the one that is gone, if that could be
asked for by the path to the directory.
-/
theorem configurations_delete {tree : FileTree} {f : FilePath} {bytes : List UInt8}
    (sound : tree.Sound) (present : tree.nodes.find? f = some (.file bytes))
    {path place : FilePath} (leads : tree.find path = .ok (place, .directory))
    (short : ∀ name, place.child name = f → FileTree.isLongPath (path.child name) = false)
    : (∃ failure,
        configurations tree path = .error failure
        ∧ configurations (tree.delete f) path = .error failure)
      ∨ ∃ names : List Text,
          configurations tree path = .ok (names.map path.child)
          ∧ configurations (tree.delete f) path
            = .ok ((names.filter (place.child · ≠ f)).map path.child)
          ∧ ∀ name ∈ names, name ≠ FilePath.upward := by
  rcases FileTree.files_delete sound present leads short with
    ⟨fault, refused, still⟩ | ⟨names, listed, left, files⟩
  · refine Or.inl ⟨(fault.unforeseen? path).getD (.file fault), ?_, ?_⟩
    · rw [configurations, refused]
    · rw [configurations, still]
  · refine Or.inr
      ⟨names.filter fun name => (path.child name).extension ∈ Settings.extensions, ?_, ?_, ?_⟩
    · rw [configurations, listed]
      simp only [List.filter_map, Function.comp_def]
    · rw [configurations, left]
      simp only [List.filter_map, Function.comp_def, List.filter_filter, Bool.and_comm]
    · intro name member
      obtain ⟨content, found⟩ := files name (List.mem_of_mem_filter member)
      obtain ⟨last, form, proper⟩ := sound.named found
      rw [FilePath.child, List.getLast?_concat, Option.some.injEq] at form
      exact form ▸ proper

end Loading

namespace Service

variable (s : Service)

-----------------------------------------------------------------------------------------
-- Files
-----------------------------------------------------------------------------------------

/-- A file that is loaded or fails with a problem. -/
def Settles (tree : FileTree) (file : FilePath) : Prop :=
  (∃ a, (Loading.algorithm tree s.settings s.registry s.settings.strict file).outcome = .ok a)
  ∨ ∃ p,
      (Loading.algorithm tree s.settings s.registry s.settings.strict file).outcome
        = .error (.problem p)

/-- A file that fails with a problem, by a path that can be asked for. -/
def Broken (tree : FileTree) (file : FilePath) : Prop :=
  FileTree.isLongPath file = false
  ∧ ∃ p,
      (Loading.algorithm tree s.settings s.registry s.settings.strict file).outcome
        = .error (.problem p)

/-- A file is taken up or passed over exactly when it settles. -/
theorem takeUp_isOk (tree : FileTree) (file : FilePath) (known : Table Text Algorithm)
    : (∃ result, (s.takeUp tree known file).outcome = .ok result) ↔ s.Settles tree file := by
  rw [takeUp, Settles]
  cases (Loading.algorithm tree s.settings s.registry s.settings.strict file).outcome with
  | ok a =>
      dsimp only
      cases known.find? (Text.lower a.name) <;> simp
  | error failure => cases failure <;> simp

/-- A broken file is passed over. -/
theorem takeUp_broken {tree : FileTree} {file : FilePath} (broken : s.Broken tree file)
    (known : Table Text Algorithm)
    : (s.takeUp tree known file).outcome = .ok known := by
  obtain ⟨_, p, fails⟩ := broken
  rw [takeUp]
  simp only [fails]

-----------------------------------------------------------------------------------------
-- Directories
-----------------------------------------------------------------------------------------

theorem takeUpDirectory_outcome (tree : FileTree) (known : Table Text Algorithm)
    (directory : FilePath)
    : (s.takeUpDirectory tree known directory).outcome
      = Loading.isDirectory tree directory >>= fun isDirectory =>
          if isDirectory then
            Loading.configurations tree directory >>= fun files =>
              files.foldlM (fun known file => (s.takeUp tree known file).outcome) known
          else .ok known := by
  rw [takeUpDirectory, Logged.outcome_bind]
  congr 1
  funext isDirectory
  cases isDirectory with
  | false => rfl
  | true =>
      rw [if_pos rfl, if_pos rfl, Logged.outcome_bind]
      simp only [Logged.outcome_foldlM]
      rfl

/-- A directory that can be asked for and whose files all settle, or what is no directory. -/
def CanTakeUp (tree : FileTree) (directory : FilePath) : Prop :=
  Loading.isDirectory tree directory = .ok false
  ∨ ∃ files,
      Loading.isDirectory tree directory = .ok true
      ∧ Loading.configurations tree directory = .ok files
      ∧ ∀ file ∈ files, s.Settles tree file

theorem takeUpDirectory_isOk (tree : FileTree) (directory : FilePath)
    (known : Table Text Algorithm)
    : (∃ result, (s.takeUpDirectory tree known directory).outcome = .ok result)
      ↔ s.CanTakeUp tree directory := by
  rw [takeUpDirectory_outcome, CanTakeUp]
  cases Loading.isDirectory tree directory with
  | error failure => simp [Bind.bind, Except.bind]
  | ok isDirectory =>
      cases isDirectory with
      | false => simp [Bind.bind, Except.bind]
      | true =>
          cases Loading.configurations tree directory with
          | error failure => simp [Bind.bind, Except.bind]
          | ok files =>
              have each : (∃ result,
                    files.foldlM (fun known file => (s.takeUp tree known file).outcome) known
                      = .ok result)
                  ↔ ∀ file ∈ files, s.Settles tree file :=
                foldlM_isOk (fun file _ known => s.takeUp_isOk tree file known) known
              simpa [Bind.bind, Except.bind] using each

/-- A file that is broken where a directory shows it. -/
def BrokenIn (tree : FileTree) (f directory : FilePath) : Prop :=
  ∀ place,
    tree.find directory = .ok (place, .directory)
      → f = place.child f.name → s.Broken tree (directory.child f.name)

/-- The files of a directory are taken up as before when a broken one is gone. -/
theorem takeUpFiles_delete {tree : FileTree} {f : FilePath} {bytes : List UInt8}
    (sound : tree.Sound) (present : tree.nodes.find? f = some (.file bytes))
    {directory place : FilePath} (leads : tree.find directory = .ok (place, .directory))
    {names : List Text} (proper : ∀ name ∈ names, name ≠ FilePath.upward)
    (broken : ∀ name, place.child name = f → s.Broken tree (directory.child name))
    (known : Table Text Algorithm)
    : ((names.filter (place.child · ≠ f)).map directory.child).foldlM
        (fun known file => (s.takeUp (tree.delete f) known file).outcome) known
      = (names.map directory.child).foldlM
        (fun known file => (s.takeUp tree known file).outcome) known := by
  rw [List.foldlM_map, List.foldlM_map]
  calc (names.filter (place.child · ≠ f)).foldlM
        (fun known name => (s.takeUp (tree.delete f) known (directory.child name)).outcome) known
      = (names.filter (place.child · ≠ f)).foldlM
        (fun known name => (s.takeUp tree known (directory.child name)).outcome) known := by
          refine foldlM_congr (fun name member known => ?_) known
          have inside := List.mem_filter.mp member
          rw [takeUp, takeUp, Loading.algorithm_delete sound present leads
            (proper name inside.1) (by simpa using inside.2)]
    _ = names.foldlM
        (fun known name => (s.takeUp tree known (directory.child name)).outcome) known := by
          refine foldlM_idle (fun name _ gone known => ?_) known
          exact s.takeUp_broken (broken name (by simpa using gone)) known

/-- A directory is taken up as before when a file is gone that was broken in it. -/
theorem takeUpDirectory_delete {tree : FileTree} {f : FilePath} {bytes : List UInt8}
    (sound : tree.Sound) (present : tree.nodes.find? f = some (.file bytes))
    {directory : FilePath} (broken : s.BrokenIn tree f directory)
    (known : Table Text Algorithm)
    : (s.takeUpDirectory (tree.delete f) known directory).outcome
      = (s.takeUpDirectory tree known directory).outcome := by
  have same : Loading.isDirectory (tree.delete f) directory
      = Loading.isDirectory tree directory := by
    rw [Loading.isDirectory, Loading.isDirectory, FileTree.isDirectory_delete sound present]
  rw [takeUpDirectory_outcome, takeUpDirectory_outcome, same]
  cases asked : Loading.isDirectory tree directory with
  | error failure => rfl
  | ok isDirectory =>
      cases isDirectory with
      | false => rfl
      | true =>
          obtain ⟨place, leads⟩ := Loading.find_of_isDirectory asked
          have brokenAs (name : Text) (own : place.child name = f)
              : s.Broken tree (directory.child name) := by
            have named : f.name = name := own ▸ FileTree.name_child place name
            exact named ▸ broken place leads (named ▸ own.symm)
          rcases Loading.configurations_delete sound present leads
              (fun name own => (brokenAs name own).1) with
            ⟨failure, refused, still⟩ | ⟨names, whole, left, proper⟩
          · rw [refused, still]
            rfl
          · rw [whole, left]
            exact s.takeUpFiles_delete sound present leads proper brokenAs known

-----------------------------------------------------------------------------------------
-- The listing
-----------------------------------------------------------------------------------------

theorem list_outcome (tree : FileTree)
    : (s.list tree).outcome
      = match s.found with
        | some found => .ok (s, found.values)
        | none =>
          (s.settings.searchDirectories.foldlM
              (fun known directory => (s.takeUpDirectory tree known directory).outcome) ∅).map
            fun found => ({ s with found := some found }, found.values) := by
  rw [list, Logged.outcome_bind, search]
  cases s.found with
  | some found => rfl
  | none =>
      dsimp only
      rw [Logged.outcome_bind, Logged.outcome_foldlM]
      cases s.settings.searchDirectories.foldlM
        (fun known directory => (s.takeUpDirectory tree known directory).outcome) ∅ <;> rfl

/-- Algorithms are listed exactly when they are known or every search directory can be taken up. -/
theorem list_isOk (tree : FileTree)
    : (∃ result, (s.list tree).outcome = .ok result)
      ↔ s.found.isSome = true
        ∨ ∀ directory ∈ s.settings.searchDirectories, s.CanTakeUp tree directory := by
  rw [list_outcome]
  cases s.found with
  | some found => simp
  | none =>
      have each : (∃ result,
            s.settings.searchDirectories.foldlM
                (fun known directory => (s.takeUpDirectory tree known directory).outcome)
                (∅ : Table Text Algorithm)
              = .ok result)
          ↔ ∀ directory ∈ s.settings.searchDirectories, s.CanTakeUp tree directory :=
        foldlM_isOk (fun directory _ known => s.takeUpDirectory_isOk tree directory known) ∅
      rw [← each]
      cases s.settings.searchDirectories.foldlM
        (fun known directory => (s.takeUpDirectory tree known directory).outcome)
        (∅ : Table Text Algorithm) <;>
        simp [Except.map]

/-- Algorithms are listed as if a file were gone that is broken wherever it is shown, and they are
listed exactly when they are known or every search directory can be taken up.
-/
theorem list_delete {tree : FileTree} {f : FilePath} {bytes : List UInt8}
    (sound : tree.Sound) (present : tree.nodes.find? f = some (.file bytes))
    (broken : ∀ directory ∈ s.settings.searchDirectories, s.BrokenIn tree f directory)
    : (s.list tree).outcome = (s.list (tree.delete f)).outcome
      ∧ ((∃ result, (s.list tree).outcome = .ok result)
        ↔ s.found.isSome = true
          ∨ ∀ directory ∈ s.settings.searchDirectories, s.CanTakeUp tree directory) := by
  refine ⟨?_, s.list_isOk tree⟩
  rw [list_outcome, list_outcome]
  cases s.found with
  | some found => rfl
  | none =>
      dsimp only
      rw [foldlM_congr fun directory member known =>
        (s.takeUpDirectory_delete sound present (broken directory member) known).symm]

-----------------------------------------------------------------------------------------
-- A search directory with two files
-----------------------------------------------------------------------------------------

/-- A search directory. -/
def someDirectory : FilePath :=
  ⟨.working, ["d"]⟩

/-- A file in the search directory. -/
def someFile : FilePath :=
  someDirectory.child "a.rec"

/-- Another file in the search directory. -/
def someScript : FilePath :=
  someDirectory.child "b.rec"

/-- A script that names a module. -/
def scriptText : Text :=
  "rec.module = M"

/-- A file tree with a file of given bytes and a script behind it. -/
def fileAndScript (bytes : List UInt8) : FileTree :=
  ⟨Table.ofList
    [(someFile, .file bytes), (someScript, .file (scriptText.flatMap Utf8.encodeOne))]⟩

/-- A service with one module and one search directory that has not been asked yet. -/
def someService : Service where
  settings := ⟨Settings.defaultRootName, true, [someDirectory], none⟩
  registry := Registry.empty.insert (Algorithm.plainModule ⟨"M", Algorithm.isComponentName_m⟩)
  found := none

theorem entries_fileAndScript (bytes : List UInt8)
    : (fileAndScript bytes).nodes.entries
      = [(someFile, .file bytes), (someScript, .file (scriptText.flatMap Utf8.encodeOne))] :=
  rfl

theorem sound_fileAndScript (bytes : List UInt8) : (fileAndScript bytes).Sound where
  leaf {place content} found other member := by
    have entry := Table.find?_eq_some.mp found
    rw [entries_fileAndScript] at entry
    rw [Table.keys, entries_fileAndScript] at member
    simp only [List.mem_cons, List.not_mem_nil, or_false, Prod.mk.injEq, List.map_cons,
      List.map_nil] at entry member
    rcases entry with ⟨rfl, _⟩ | ⟨rfl, _⟩ <;> rcases member with rfl | rfl <;> decide
  named {place content} found := by
    have entry := Table.find?_eq_some.mp found
    rw [entries_fileAndScript] at entry
    simp only [List.mem_cons, List.not_mem_nil, or_false, Prod.mk.injEq] at entry
    rcases entry with ⟨rfl, _⟩ | ⟨rfl, _⟩
    · exact ⟨"a.rec", rfl, by decide⟩
    · exact ⟨"b.rec", rfl, by decide⟩

/-- The script is loaded wherever it can be read. -/
theorem settles_someScript {tree : FileTree}
    (stored : tree.read someScript = .ok (scriptText.flatMap Utf8.encodeOne))
    : someService.Settles tree someScript := by
  let r := Record.ofList [(Path.module, .reference ⟨"M", Algorithm.isComponentName_m⟩)]
  have encoded : Utf8.encode scriptText = .ok (scriptText.flatMap Utf8.encodeOne) := rfl
  have kept : Loading.record tree someService.settings someScript = .ok r := by
    rw [Loading.record_of_stored (by decide) encoded stored]
    rfl
  obtain ⟨a, made⟩ : ∃ a,
      (Algorithm.ofRecord someService.registry true (some someScript.stem) (some someScript.text)
        r).outcome
        = .ok a := ⟨_, rfl⟩
  refine Or.inl ⟨a, ?_⟩
  rw [Loading.algorithm, kept]
  exact made

/-- The search directories can be taken up if their files settle; no file is bundled here. -/
theorem canTakeUp_of_files {tree : FileTree} {files : List FilePath}
    (isDirectory : Loading.isDirectory tree someDirectory = .ok true)
    (listed : Loading.configurations tree someDirectory = .ok files)
    (settle : ∀ file ∈ files, someService.Settles tree file)
    (leads : tree.find FilePath.bundledDirectory = .ok (FilePath.bundledDirectory, .directory))
    (none : tree.files FilePath.bundledDirectory = .ok [])
    : ∀ directory ∈ someService.settings.searchDirectories,
        someService.CanTakeUp tree directory := by
  change ∀ directory ∈ [someDirectory, FilePath.bundledDirectory], _
  simp only [List.forall_mem_cons, List.not_mem_nil, false_imp_iff, implies_true, and_true]
  refine ⟨Or.inr ⟨files, isDirectory, listed, settle⟩, Or.inr ⟨[], ?_, ?_, by simp⟩⟩
  · rw [Loading.isDirectory, FileTree.isDirectory, FileTree.find?, leads]
    rfl
  · rw [Loading.configurations, none]
    rfl

theorem find_bundled (bytes : List UInt8)
    : (fileAndScript bytes).find FilePath.bundledDirectory
      = .ok (FilePath.bundledDirectory, .directory) :=
  rfl

theorem find_bundled_delete (bytes : List UInt8)
    : ((fileAndScript bytes).delete someFile).find FilePath.bundledDirectory
      = .ok (FilePath.bundledDirectory, .directory) :=
  rfl

/-- A file that is no script is passed over. -/
theorem list_delete_letter
    : (someService.list (fileAndScript [0x41])).outcome
        = (someService.list ((fileAndScript [0x41]).delete someFile)).outcome
      ∧ ∃ result, (someService.list (fileAndScript [0x41])).outcome = .ok result := by
  have fails : (Loading.algorithm (fileAndScript [0x41]) someService.settings someService.registry
      someService.settings.strict someFile).outcome
      = .error (.problem (.script .noAssignment (some someFile.text) 1 "A")) := by
    have encoded : Utf8.encode "A" = .ok [0x41] := rfl
    rw [Loading.algorithm, Loading.record_of_stored (by decide) encoded rfl]
    rfl
  have broken : ∀ directory ∈ someService.settings.searchDirectories,
      someService.BrokenIn (fileAndScript [0x41]) someFile directory := by
    change ∀ directory ∈ [someDirectory, FilePath.bundledDirectory], _
    simp only [List.forall_mem_cons, List.not_mem_nil, false_imp_iff, implies_true, and_true]
    refine ⟨fun _ _ _ => ⟨by decide, _, fails⟩, fun place leads own => ?_⟩
    rw [find_bundled] at leads
    cases leads
    cases own
  have files : Loading.configurations (fileAndScript [0x41]) someDirectory
      = .ok [someFile, someScript] := by
    cbv
  have bundled : (fileAndScript [0x41]).files FilePath.bundledDirectory = .ok [] := by
    rw [FileTree.files, find_bundled]
    cbv
  have listed := someService.list_delete (sound_fileAndScript [0x41]) rfl broken
  refine ⟨listed.1, listed.2.mpr (Or.inr ?_)⟩
  refine canTakeUp_of_files rfl files ?_ (find_bundled _) bundled
  simp only [List.forall_mem_cons, List.not_mem_nil, false_imp_iff, implies_true, and_true]
  exact ⟨Or.inr ⟨_, fails⟩, settles_someScript rfl⟩

/-- A file with a byte that begins no code point is not passed over: nothing is listed, although the
other file is without it.
-/
theorem list_undecodable
    : (Loading.algorithm (fileAndScript [0xFF]) someService.settings someService.registry
          someService.settings.strict someFile).outcome
        = .error (.undecodable ⟨.startByte, 0xFF, 0, 1⟩)
      ∧ (someService.list (fileAndScript [0xFF])).outcome
        = .error (.undecodable ⟨.startByte, 0xFF, 0, 1⟩)
      ∧ ∃ result,
          (someService.list ((fileAndScript [0xFF]).delete someFile)).outcome = .ok result := by
  refine ⟨rfl, by cbv, (someService.list_isOk _).mpr (Or.inr ?_)⟩
  have files : Loading.configurations ((fileAndScript [0xFF]).delete someFile) someDirectory
      = .ok [someScript] := by
    cbv
  have bundled : ((fileAndScript [0xFF]).delete someFile).files FilePath.bundledDirectory
      = .ok [] := by
    rw [FileTree.files, find_bundled_delete]
    cbv
  refine canTakeUp_of_files rfl files ?_ (find_bundled_delete _) bundled
  simp only [List.forall_mem_cons, List.not_mem_nil, false_imp_iff, implies_true, and_true]
  exact settles_someScript rfl

end Service
end Recommender
