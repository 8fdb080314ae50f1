import Recommender.Proofs.Files.Names
import Recommender.Proofs.Service.Lookup

/-! Lookup of configuration files by name. A lookup goes through the files that the search takes up,
in the same order, and gives the first one with the name. It does as long as each search directory
that it comes to can be looked into; one that is a file ends it, although the search passes over it.
-/

namespace Recommender

namespace Service

variable (s : Service) (tree : FileTree)

-----------------------------------------------------------------------------------------
-- Configuration files in a directory
-----------------------------------------------------------------------------------------

/-- A file lies right in a directory and has an extension of configuration files. -/
def Holds (directory file : FilePath) : Prop :=
  ∃ place name bytes,
    tree.find directory = .ok (place, .directory)
    ∧ (place.child name, .file bytes) ∈ tree.nodes.entries
    ∧ file = directory.child name
    ∧ file.extension ∈ Settings.extensions

variable {tree}

/-- What is listed of a directory are the files right in it. -/
theorem mem_files {directory place file : FilePath} {files : List FilePath}
    (leads : tree.find directory = .ok (place, .directory))
    (listed : tree.files directory = .ok files)
    : file ∈ files
      ↔ ∃ name bytes,
          (place.child name, .file bytes) ∈ tree.nodes.entries ∧ file = directory.child name := by
  simp only [FileTree.files, leads] at listed
  split at listed
  · cases listed
  · cases listed
    simp only [List.mem_map, List.mem_mergeSort, List.mem_filterMap, FileTree.fileName?_eq_some]
    constructor
    · rintro ⟨name, ⟨⟨_, _⟩, member, rfl, bytes, rfl⟩, rfl⟩
      exact ⟨name, bytes, member, rfl⟩
    · rintro ⟨name, bytes, member, rfl⟩
      exact ⟨name, ⟨_, member, rfl, bytes, rfl⟩, rfl⟩

/-- The configurations of a directory are the files in it with one of their extensions. -/
theorem mem_configurations {directory place file : FilePath} {files : List FilePath}
    (leads : tree.find directory = .ok (place, .directory))
    (listed : Loading.configurations tree directory = .ok files)
    : file ∈ files ↔ Holds tree directory file := by
  rw [Loading.configurations] at listed
  split at listed
  · next all given =>
      cases listed
      rw [List.mem_filter, mem_files leads given, decide_eq_true_iff]
      constructor
      · rintro ⟨⟨name, bytes, member, own⟩, known⟩
        exact ⟨place, name, bytes, leads, member, own, known⟩
      · rintro ⟨other, name, bytes, also, member, own, known⟩
        rw [leads] at also
        cases also
        exact ⟨⟨name, bytes, member, own⟩, known⟩
  · cases listed

/-- A directory shows the configurations in it if it can be asked for, and nothing otherwise. -/
theorem mem_shown {directory file : FilePath}
    : file ∈ shown tree directory ↔ Reachable tree directory ∧ Holds tree directory file := by
  rw [shown]
  rcases reachable_cases tree directory with
    ⟨reachable, none | ⟨files, asked, listed⟩⟩ | ⟨apart, failure, refused | ⟨asked, refused⟩⟩
  · have nothing : ¬ Holds tree directory file := by
      rintro ⟨place, _, _, leads, _⟩
      rw [isDirectory_eq, leads] at none
      cases none
    simp [none, nothing]
  · obtain ⟨place, leads⟩ := Loading.find_of_isDirectory asked
    simp [asked, listed, reachable, mem_configurations leads listed]
  · simp [refused, apart]
  · simp [asked, refused, apart]

theorem extension_of_mem_searchOrder {file : FilePath} (member : file ∈ s.searchOrder tree)
    : file.extension ∈ Settings.extensions := by
  obtain ⟨directory, _, isShown⟩ := List.mem_flatMap.mp member
  obtain ⟨_, _, _, _, _, _, _, known⟩ := mem_shown.mp isShown
  exact known

-----------------------------------------------------------------------------------------
-- Directories that a lookup comes to
-----------------------------------------------------------------------------------------

variable (tree)

/-- A search directory can be looked into: it can be asked for and is no file. -/
def Searchable (directory : FilePath) : Prop :=
  Reachable tree directory
  ∧ ∀ place bytes, tree.find directory ≠ .ok (place, .file bytes)

/-- A lookup comes to a directory if no directory before it shows a file of the name. -/
inductive ComesTo (name : Text) : List FilePath → FilePath → Prop where
  | first (directory : FilePath) (rest : List FilePath) :
      ComesTo name (directory :: rest) directory
  | later {directory other : FilePath} {rest : List FilePath}
      (none : ∀ file ∈ shown tree directory, Loading.isNamed name file = false)
      (comes : ComesTo name rest other) :
      ComesTo name (directory :: rest) other

theorem ComesTo.mem {tree : FileTree} {name : Text} {directories : List FilePath}
    {directory : FilePath} (comes : ComesTo tree name directories directory)
    : directory ∈ directories := by
  induction comes with
  | first => exact List.mem_cons_self
  | later _ _ ih => exact List.mem_cons_of_mem _ ih

/-- A lookup stops at a directory with a failure. -/
def StopsAt (directory : FilePath) (failure : Failure) : Prop :=
  Loading.pathExists tree directory = .error failure
  ∨ Loading.pathExists tree directory = .ok true
    ∧ Loading.configurations tree directory = .error failure

theorem pathExists_eq (directory : FilePath)
    : Loading.pathExists tree directory
      = match tree.find directory with
        | .ok _ => .ok true
        | .error fault =>
          if fault.cause = .nameTooLong then .error (.file fault) else .ok false := by
  rw [Loading.pathExists, FileTree.existsAt, FileTree.find?]
  cases tree.find directory with
  | ok found => rfl
  | error fault =>
      dsimp only
      split <;> rfl

/-- The failure of a directory is no problem that a lookup may end with. -/
theorem StopsAt.ne_problem {directory : FilePath} {failure : Failure}
    (stops : StopsAt tree directory failure) (p : Problem)
    : failure ≠ .problem p := by
  rcases stops with refused | ⟨_, refused⟩
  · rw [pathExists_eq] at refused
    split at refused
    · cases refused
    · split at refused <;> cases refused
      simp
  · rw [Loading.configurations] at refused
    split at refused
    · cases refused
    · next fault _ =>
        cases refused
        rw [FileFault.unforeseen?]
        split
        · simp
        · split <;> simp

theorem stopsAt_of_file {directory place : FilePath} {bytes : List UInt8}
    (leads : tree.find directory = .ok (place, .file bytes))
    : ∃ failure, StopsAt tree directory failure := by
  have exist : Loading.pathExists tree directory = .ok true := by rw [pathExists_eq, leads]
  have noFiles : tree.files directory = .error ⟨.notDirectory, directory.text⟩ := by
    rw [FileTree.files, leads]
  have refused : ∃ failure, Loading.configurations tree directory = .error failure := by
    rw [Loading.configurations, noFiles]
    exact ⟨_, rfl⟩
  obtain ⟨failure, refused⟩ := refused
  exact ⟨failure, .inr ⟨exist, refused⟩⟩

/-- A lookup stops where the search does. -/
theorem stopsAt_of_refuses {directory : FilePath} {failure : Failure}
    (refuses : Refuses tree directory failure)
    : StopsAt tree directory failure ∧ shown tree directory = [] := by
  have exist := pathExists_eq tree directory
  have isDirectory := isDirectory_eq tree directory
  rcases refuses with refused | ⟨asked, refused⟩
  · refine ⟨.inl ?_, by rw [shown, refused]⟩
    rw [refused] at isDirectory
    split at isDirectory
    · cases isDirectory
    · cases isDirectory
    · next leads =>
        rw [exist, leads]
        exact isDirectory.symm
  · refine ⟨.inr ⟨?_, refused⟩, by rw [shown, asked, refused]⟩
    obtain ⟨place, leads⟩ := Loading.find_of_isDirectory asked
    rw [exist, leads]

/-- A search directory can be looked into, and is missing or shows its configurations, or a lookup
stops there and nothing is shown.
-/
theorem searchable_cases (directory : FilePath)
    : (Searchable tree directory
        ∧ (Loading.pathExists tree directory = .ok false ∧ shown tree directory = []
          ∨ Loading.pathExists tree directory = .ok true
            ∧ Loading.configurations tree directory = .ok (shown tree directory)))
      ∨ (¬ Searchable tree directory
        ∧ shown tree directory = []
        ∧ ∃ failure, StopsAt tree directory failure) := by
  have exist := pathExists_eq tree directory
  rcases reachable_cases tree directory with
    ⟨reachable, none | ⟨files, asked, listed⟩⟩ | ⟨apart, failure, refuses⟩
  · have nothing : shown tree directory = [] := by rw [shown, none]
    cases leads : tree.find directory with
    | ok found =>
        obtain ⟨place, bytes | _⟩ := found
        -- A file is no directory for the search, but it is there for the lookup.
        · exact .inr ⟨fun searchable => searchable.2 place bytes leads, nothing,
            stopsAt_of_file tree leads⟩
        · rw [isDirectory_eq, leads] at none
          cases none
    | error fault =>
        rw [leads] at exist
        refine .inl ⟨⟨reachable, fun place bytes same => ?_⟩, .inl ⟨?_, nothing⟩⟩
        · rw [leads] at same
          cases same
        · exact exist.trans (if_neg (reachable.1 fault leads))
  · obtain ⟨place, leads⟩ := Loading.find_of_isDirectory asked
    rw [leads] at exist
    refine .inl ⟨⟨reachable, fun other bytes same => ?_⟩, .inr ⟨exist, ?_⟩⟩
    · rw [leads] at same
      cases same
    · rw [shown, asked, listed]
  · obtain ⟨stops, nothing⟩ := stopsAt_of_refuses tree refuses
    exact .inr ⟨fun searchable => apart searchable.1, nothing, failure, stops⟩

theorem searchable_of_configurations {directory : FilePath} {files : List FilePath}
    (exist : Loading.pathExists tree directory = .ok true)
    (listed : Loading.configurations tree directory = .ok files)
    : Searchable tree directory := by
  rcases searchable_cases tree directory with
    ⟨searchable, _⟩ | ⟨_, _, failure, refused | ⟨_, refused⟩⟩
  · exact searchable
  · cases exist.symm.trans refused
  · cases listed.symm.trans refused

-----------------------------------------------------------------------------------------
-- The lookup
-----------------------------------------------------------------------------------------

/-- A lookup takes the first file of the name that a directory shows and goes on if there is none,
or it stops there.
-/
theorem findIn_cons (name : Text) (directory : FilePath) (rest : List FilePath)
    : (Searchable tree directory
        ∧ Loading.findIn tree name (directory :: rest)
          = match (shown tree directory).find? (Loading.isNamed name) with
            | some file => .ok (some file)
            | none => Loading.findIn tree name rest)
      ∨ (¬ Searchable tree directory
        ∧ ∃ failure,
            StopsAt tree directory failure
            ∧ Loading.findIn tree name (directory :: rest) = .error failure) := by
  rw [Loading.findIn]
  rcases searchable_cases tree directory with
    ⟨searchable, ⟨missing, nothing⟩ | ⟨exist, listed⟩⟩ | ⟨apart, _, failure, stops⟩
  · refine .inl ⟨searchable, ?_⟩
    rw [missing, nothing]
    rfl
  · refine .inl ⟨searchable, ?_⟩
    rw [exist, listed]
    cases first : (shown tree directory).find? (Loading.isNamed name) <;>
      simp [first, Bind.bind, Except.bind, Pure.pure, Except.pure]
  · refine .inr ⟨apart, failure, stops, ?_⟩
    rcases stops with refused | ⟨exist, refused⟩
    · rw [refused]
      rfl
    · rw [exist, refused]
      rfl

/-- A lookup in directories gives the first file of the name that they show if it comes to none that
it cannot look into; otherwise it stops at one. The proof is by list induction.
-/
theorem findIn_cases (name : Text) (directories : List FilePath)
    : ((∀ directory, ComesTo tree name directories directory → Searchable tree directory)
        ∧ Loading.findIn tree name directories
          = .ok ((directories.flatMap (shown tree)).find? (Loading.isNamed name)))
      ∨ ∃ directory failure,
          ComesTo tree name directories directory
          ∧ ¬ Searchable tree directory
          ∧ StopsAt tree directory failure
          ∧ Loading.findIn tree name directories = .error failure := by
  induction directories with
  | nil => exact .inl ⟨nofun, rfl⟩
  | cons directory rest ih =>
      rw [List.flatMap_cons, List.find?_append]
      rcases findIn_cons tree name directory rest with
        ⟨searchable, step⟩ | ⟨apart, failure, stops, step⟩
      · cases first : (shown tree directory).find? (Loading.isNamed name) with
        | some file =>
            rw [first] at step
            refine .inl ⟨fun other comes => ?_, step⟩
            cases comes with
            | first => exact searchable
            | later none =>
                have named := none file (List.mem_of_find?_eq_some first)
                rw [List.find?_some first] at named
                cases named
        | none =>
            have noneNamed : ∀ file ∈ shown tree directory, Loading.isNamed name file = false := by
              simpa using first
            rw [first] at step
            rcases ih with ⟨each, found⟩ | ⟨other, failure, comes, apart, stops, stopped⟩
            · refine .inl ⟨fun other comes => ?_, step.trans found⟩
              cases comes with
              | first => exact searchable
              | later _ comes => exact each other comes
            · exact .inr ⟨other, failure, .later noneNamed comes, apart, stops,
                step.trans stopped⟩
      · exact .inr ⟨directory, failure, .first directory rest, apart, stops, step⟩

/-- The first file of a name among those that the search takes up. -/
def firstNamed (name : Text) : Except Failure FilePath :=
  match (s.searchOrder tree).find? (Loading.isNamed name) with
  | some file => .ok file
  | none => .error (.problem (.unusable (some name) .unknownName))

/-- The first file of its own name is found by it. -/
theorem firstNamed_stem {before after : List FilePath} {file : FilePath}
    (order : s.searchOrder tree = before ++ file :: after)
    (first : ∀ earlier ∈ before, Text.lower earlier.stem ≠ Text.lower file.stem)
    : s.firstNamed tree file.stem = .ok file := by
  have apart : before.find? (Loading.isNamed file.stem) = none := by
    simpa [Loading.isNamed] using first
  have own : Loading.isNamed file.stem file = true := by simp [Loading.isNamed]
  rw [firstNamed, order, List.find?_append, apart, Option.none_or,
    List.find?_cons_of_pos own]

/-- A lookup gives the first file of a name in search order, or fails for want of one, if it comes
to no directory that it cannot look into; otherwise it stops at one with another failure.
-/
theorem find_cases (name : Text)
    : ((∀ directory,
          ComesTo tree name s.settings.searchDirectories directory → Searchable tree directory)
        ∧ Loading.find tree s.settings name = s.firstNamed tree name)
      ∨ ∃ directory failure,
          ComesTo tree name s.settings.searchDirectories directory
          ∧ ¬ Searchable tree directory
          ∧ StopsAt tree directory failure
          ∧ Loading.find tree s.settings name = .error failure := by
  rw [Loading.find]
  rcases findIn_cases tree name s.settings.searchDirectories with
    ⟨each, found⟩ | ⟨directory, failure, comes, apart, stops, stopped⟩
  · refine .inl ⟨each, ?_⟩
    have order : s.settings.searchDirectories.flatMap (shown tree) = s.searchOrder tree := rfl
    rw [found, firstNamed, order]
    cases (s.searchOrder tree).find? (Loading.isNamed name) <;> rfl
  · refine .inr ⟨directory, failure, comes, apart, stops, ?_⟩
    rw [stopped]
    rfl

theorem firstNamed_ne_of_stopsAt {directory : FilePath} {failure : Failure}
    (stops : StopsAt tree directory failure) (name : Text)
    : s.firstNamed tree name ≠ .error failure := by
  rw [firstNamed]
  split
  · simp
  · intro same
    cases same
    exact stops.ne_problem tree _ rfl

/-- A lookup by name gives the first file of the name in search order, upper and lower case aside,
and fails for want of one exactly if there is none, if and only if it comes to no search directory
that it cannot look into; otherwise it stops at such a directory with another failure. The files in
search order are those that lie right in a directory and have an extension of configuration files,
by directory and by name, each of them with its extension behind the last dot; so a file is found by
what stands before that, unless one before it has the same name.
-/
theorem find_eq_firstNamed_iff
    : (∀ name,
        (Loading.find tree s.settings name = s.firstNamed tree name
          ↔ ∀ directory,
              ComesTo tree name s.settings.searchDirectories directory → Searchable tree directory)
        ∧ (Loading.find tree s.settings name ≠ s.firstNamed tree name
          → ∃ directory failure,
              ComesTo tree name s.settings.searchDirectories directory
              ∧ ¬ Searchable tree directory
              ∧ StopsAt tree directory failure
              ∧ Loading.find tree s.settings name = .error failure
              ∧ ∀ p, failure ≠ .problem p))
      ∧ (∀ directory file,
          file ∈ shown tree directory ↔ Reachable tree directory ∧ Holds tree directory file)
      ∧ (∀ directory,
          (shown tree directory).Pairwise fun file other =>
            Text.before file.name other.name = true)
      ∧ (∀ file ∈ s.searchOrder tree, file.name = file.stem ++ "." ++ file.extension)
      ∧ ∀ before file after,
          s.searchOrder tree = before ++ file :: after
          → (∀ earlier ∈ before, Text.lower earlier.stem ≠ Text.lower file.stem)
          → (∀ directory,
              ComesTo tree file.stem s.settings.searchDirectories directory
              → Searchable tree directory)
          → Loading.find tree s.settings file.stem = .ok file := by
  have finds (name : Text)
      (each : ∀ directory,
        ComesTo tree name s.settings.searchDirectories directory → Searchable tree directory)
      : Loading.find tree s.settings name = s.firstNamed tree name := by
    rcases s.find_cases tree name with ⟨_, found⟩ | ⟨directory, _, comes, apart, _⟩
    · exact found
    · exact absurd (each directory comes) apart
  refine ⟨fun name => ⟨⟨fun same => ?_, finds name⟩, fun other => ?_⟩, fun _ _ => mem_shown,
    pairwise_shown tree, fun file member => ?_, fun before file after order first each => ?_⟩
  · rcases s.find_cases tree name with ⟨each, _⟩ | ⟨_, _, _, _, stops, stopped⟩
    · exact each
    · exact absurd (same.symm.trans stopped) (s.firstNamed_ne_of_stopsAt tree stops name)
  · rcases s.find_cases tree name with
      ⟨_, found⟩ | ⟨directory, failure, comes, apart, stops, stopped⟩
    · exact absurd found other
    · exact ⟨directory, failure, comes, apart, stops, stopped, stops.ne_problem tree⟩
  · refine FilePath.name_of_extension fun none => ?_
    have known := s.extension_of_mem_searchOrder member
    rw [none] at known
    revert known
    decide
  · rw [finds file.stem each, s.firstNamed_stem tree order first]

theorem searchable_namesakes
    : ∀ directory ∈ someService.settings.searchDirectories, Searchable namesakes directory := by
  change ∀ directory ∈ [someDirectory, FilePath.bundledDirectory], _
  simp only [List.forall_mem_cons, List.not_mem_nil, false_imp_iff, implies_true, and_true]
  refine ⟨searchable_of_configurations namesakes rfl configurations_namesakes, ?_⟩
  have bundled : Loading.configurations namesakes FilePath.bundledDirectory = .ok [] := by
    rw [Loading.configurations, files_namesakes]
    rfl
  exact searchable_of_configurations namesakes rfl bundled

/-- Among the namesakes the second script is found by its base name, in capitals as well, and
nothing is found by a name that is no base name.
-/
theorem find_eq_firstNamed_iff_namesakes
    : (∀ name directory,
        ComesTo namesakes name someService.settings.searchDirectories directory
        → Searchable namesakes directory)
      ∧ Loading.find namesakes someService.settings "B" = .ok someScript
      ∧ Loading.find namesakes someService.settings "c"
        = .error (.problem (.unusable (some "c") .unknownName))
      ∧ someService.searchOrder namesakes = [someFile] ++ someScript :: []
      ∧ (∀ earlier ∈ [someFile], Text.lower earlier.stem ≠ Text.lower someScript.stem)
      ∧ Loading.find namesakes someService.settings someScript.stem = .ok someScript
      ∧ someScript.name = someScript.stem ++ "." ++ someScript.extension := by
  have each (name : Text) (directory : FilePath)
      (comes : ComesTo namesakes name someService.settings.searchDirectories directory)
      : Searchable namesakes directory :=
    searchable_namesakes directory comes.mem
  have order : someService.searchOrder namesakes = [someFile] ++ someScript :: [] :=
    searchOrder_namesakes
  have first : ∀ earlier ∈ [someFile], Text.lower earlier.stem ≠ Text.lower someScript.stem := by
    decide
  obtain ⟨finds, _, _, whole, own⟩ := find_eq_firstNamed_iff someService namesakes
  refine ⟨each, ?_, ?_, order, first, own [someFile] someScript [] order first (each _),
    whole someScript ?_⟩
  · rw [(finds "B").1.mpr (each "B"), firstNamed, searchOrder_namesakes]
    rfl
  · rw [(finds "c").1.mpr (each "c"), firstNamed, searchOrder_namesakes]
    rfl
  · rw [order]
    simp

-----------------------------------------------------------------------------------------
-- A search directory that is a file
-----------------------------------------------------------------------------------------

/-- The service with a file before its search directory. -/
def behindFile : Service :=
  { someService with
    settings := { someService.settings with scriptDirectories := [someFile, someDirectory] } }

theorem searchOrder_behindFile
    : behindFile.searchOrder namesakes = someService.searchOrder namesakes := by
  have nothing : shown namesakes someFile = [] := rfl
  change [someFile, someDirectory, FilePath.bundledDirectory].flatMap (shown namesakes)
    = [someDirectory, FilePath.bundledDirectory].flatMap (shown namesakes)
  rw [List.flatMap_cons, nothing, List.nil_append]

/-- The script behind the file is the first one of its name, but looking for it ends at the file. -/
theorem find_behindFile
    : behindFile.firstNamed namesakes "b" = .ok someScript
      ∧ Loading.find namesakes behindFile.settings "b"
        = .error (.file ⟨.notDirectory, someFile.text⟩)
      ∧ ¬ ∀ name,
          Loading.find namesakes behindFile.settings name
            = behindFile.firstNamed namesakes name := by
  have first : behindFile.firstNamed namesakes "b" = .ok someScript := by
    rw [firstNamed, searchOrder_behindFile, searchOrder_namesakes]
    rfl
  have stopped : Loading.find namesakes behindFile.settings "b"
      = .error (.file ⟨.notDirectory, someFile.text⟩) := by
    rfl
  refine ⟨first, stopped, fun same => ?_⟩
  have both := same "b"
  rw [first, stopped] at both
  cases both

end Service
end Recommender
