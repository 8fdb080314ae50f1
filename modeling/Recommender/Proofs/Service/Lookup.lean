import Recommender.Proofs.Service.Search

/-! Listing and lookup of algorithms. Whatever is asked first, the listing and each lookup tell of
the first algorithms that the search finds under each name. They do as long as every search
directory can be asked for; one that cannot ends them all.
-/

namespace Recommender

namespace Service

variable (s : Service) (tree : FileTree)

-----------------------------------------------------------------------------------------
-- Queries
-----------------------------------------------------------------------------------------

/-- What a service is asked for: the listing or the algorithm of a name. -/
inductive Query where
  | list
  | find (name : Text)

/-- The service after a query. One that fails leaves it as it was. -/
def afterQuery (s : Service) : Query → Service
  | .list =>
    match (s.list tree).outcome with
    | .ok (next, _) => next
    | .error _ => s
  | .find name =>
    match (s.find tree name).outcome with
    | .ok (next, _) => next
    | .error _ => s

/-- The service after one query after the other. -/
def afterQueries (queries : List Query) : Service :=
  queries.foldl (afterQuery tree) s

/-- A service lists the given algorithms and finds each of them by its name, and no others. -/
structure Agrees (listed : List Algorithm) : Prop where
  list : (s.list tree).outcome.map Prod.snd = .ok listed
  find : ∀ name,
    (s.find tree name).outcome.map Prod.snd = .ok (listed.find? (isCalled name))

/-- A service neither lists nor finds algorithms, with one failure. -/
structure Fails (failure : Failure) : Prop where
  list : (s.list tree).outcome = .error failure
  find : ∀ name, (s.find tree name).outcome = .error failure

theorem list_search
    : (s.list tree).outcome
      = (s.search tree).outcome.map fun result => (result.1, result.2.values) := by
  rw [list, Logged.outcome_bind]
  cases (s.search tree).outcome <;> rfl

theorem find_search (name : Text)
    : (s.find tree name).outcome
      = (s.search tree).outcome.map fun result =>
          (result.1, result.2.find? (Text.lower name)) := by
  rw [find, Logged.outcome_bind]
  cases (s.search tree).outcome <;> rfl

theorem afterQuery_search (q : Query)
    : s.afterQuery tree q
      = match (s.search tree).outcome with
        | .ok (next, _) => next
        | .error _ => s := by
  cases q with
  | list =>
      rw [afterQuery, list_search]
      cases (s.search tree).outcome <;> rfl
  | find name =>
      rw [afterQuery, find_search]
      cases (s.search tree).outcome <;> rfl

theorem search_outcome
    : (s.search tree).outcome
      = match s.found with
        | some found => .ok (s, found)
        | none =>
          (s.settings.searchDirectories.foldlM
              (fun known directory => (s.takeUpDirectory tree known directory).outcome) ∅).map
            fun found => ({ s with found := some found }, found) := by
  rw [search]
  cases s.found with
  | some found => rfl
  | none =>
      dsimp only
      rw [Logged.outcome_bind, Logged.outcome_foldlM]
      cases s.settings.searchDirectories.foldlM
        (fun known directory => (s.takeUpDirectory tree known directory).outcome) ∅ <;> rfl

/-- A search keeps what it has found. -/
theorem search_again {next : Service} {known : Table Text Algorithm}
    (searched : (s.search tree).outcome = .ok (next, known))
    : (next.search tree).outcome = .ok (next, known) := by
  have kept : next.found = some known := by
    rw [search_outcome] at searched
    cases found : s.found with
    | some table =>
        rw [found] at searched
        cases searched
        exact found
    | none =>
        rw [found] at searched
        dsimp only at searched
        cases run : s.settings.searchDirectories.foldlM
            (fun known directory => (s.takeUpDirectory tree known directory).outcome) ∅ with
        | ok table =>
            rw [run] at searched
            cases searched
            rfl
        | error failure =>
            rw [run] at searched
            cases searched
  rw [search_outcome, kept]

/-- Whatever was asked before, the search comes to the same, by list induction. -/
theorem search_afterQueries (queries : List Query)
    : ((s.afterQueries tree queries).search tree).outcome = (s.search tree).outcome := by
  induction queries generalizing s with
  | nil => rfl
  | cons q rest ih =>
      refine (ih (s.afterQuery tree q)).trans ?_
      rw [afterQuery_search]
      cases searched : (s.search tree).outcome with
      | ok result => exact s.search_again tree searched
      | error failure => exact searched

variable {s tree}

theorem agrees_of_search {next : Service} {known : Table Text Algorithm} {found : List Algorithm}
    (searched : (s.search tree).outcome = .ok (next, known)) (keeps : Keeps known found)
    : s.Agrees tree (firsts found) where
  list := by
    rw [list_search, searched, ← keeps.values]
    rfl
  find name := by
    rw [find_search, searched, ← keeps.find?]
    rfl

theorem fails_of_search {failure : Failure} (failed : (s.search tree).outcome = .error failure)
    : s.Fails tree failure where
  list := by rw [list_search, failed]; rfl
  find name := by rw [find_search, failed]; rfl

-----------------------------------------------------------------------------------------
-- The search
-----------------------------------------------------------------------------------------

/-- A new service whose search directories can be asked for finds what is loaded in search order. -/
theorem search_reachable (fresh : s.found = none)
    (settle : ∀ file ∈ s.searchOrder tree, s.Settles tree file)
    (reachable : ∀ directory ∈ s.settings.searchDirectories, Reachable tree directory)
    : ∃ next known,
        (s.search tree).outcome = .ok (next, known)
        ∧ Keeps known ((s.searchOrder tree).filterMap (s.loaded? tree)) := by
  obtain ⟨known, searched, keeps⟩ := Keeps.empty.foldlM fun directory member _ _ keeps =>
    s.takeUpDirectory_keeps tree (reachable directory member)
      (fun file shown => settle file (List.mem_flatMap.mpr ⟨directory, member, shown⟩)) keeps
  refine ⟨{ s with found := some known }, known, ?_, ?_⟩
  · rw [search_outcome, fresh, searched]
    rfl
  · rw [searchOrder, List.filterMap_flatMap]
    exact keeps

/-- A new service fails with a search directory that refuses if one of them cannot be asked for. -/
theorem search_refused (fresh : s.found = none)
    (settle : ∀ file ∈ s.searchOrder tree, s.Settles tree file)
    {directory : FilePath} (member : directory ∈ s.settings.searchDirectories)
    (apart : ¬ Reachable tree directory)
    : ∃ failure,
        (s.search tree).outcome = .error failure
        ∧ ∃ other ∈ s.settings.searchDirectories, Refuses tree other failure := by
  rw [search_outcome, fresh]
  dsimp only
  cases run : s.settings.searchDirectories.foldlM
      (fun known directory => (s.takeUpDirectory tree known directory).outcome) ∅ with
  | error failure =>
      refine ⟨failure, rfl, ?_⟩
      obtain ⟨other, isOther, known, failed⟩ := foldlM_error run
      rcases reachable_cases tree other with ⟨reachable, _⟩ | ⟨_, refusal, refuses⟩
      · have inOrder : ∀ file ∈ shown tree other, s.Settles tree file :=
          fun file shown => settle file (List.mem_flatMap.mpr ⟨other, isOther, shown⟩)
        obtain ⟨next, made⟩ := (s.takeUpDirectory_isOk tree other known).mpr
          (s.canTakeUp_of_reachable tree reachable inOrder)
        rw [failed] at made
        cases made
      · rw [s.takeUpDirectory_refuses tree refuses known] at failed
        cases failed
        exact ⟨other, isOther, refuses⟩
  | ok known =>
      have each := (foldlM_isOk
        (fun directory _ known => s.takeUpDirectory_isOk tree directory known) ∅).mp ⟨known, run⟩
      obtain ⟨_, failure, refuses⟩ := (reachable_cases tree directory).resolve_left
        fun reachable => apart reachable.1
      obtain ⟨next, made⟩ := (s.takeUpDirectory_isOk tree directory ∅).mpr (each directory member)
      rw [s.takeUpDirectory_refuses tree refuses] at made
      cases made

/-- A new service whose files settle lists what is loaded in search order, the first algorithm of
each name alone, and finds exactly the listed algorithms by their names, whatever it is asked first,
exactly if its search directories can be asked for. If one cannot, it fails at every query.
-/
theorem agrees_iff_reachable (fresh : s.found = none)
    (settle : ∀ file ∈ s.searchOrder tree, s.Settles tree file)
    : let listed := firsts ((s.searchOrder tree).filterMap (s.loaded? tree))
      ((∀ queries, (s.afterQueries tree queries).Agrees tree listed)
        ↔ ∀ directory ∈ s.settings.searchDirectories, Reachable tree directory)
      ∧ ((∃ directory ∈ s.settings.searchDirectories, ¬ Reachable tree directory)
        → ∃ failure,
            (∀ queries, (s.afterQueries tree queries).Fails tree failure)
            ∧ ∃ directory ∈ s.settings.searchDirectories, Refuses tree directory failure)
      ∧ listed.Pairwise (fun a b => Text.lower a.name ≠ Text.lower b.name)
      ∧ (∀ name a,
          listed.find? (isCalled name) = some a ↔ a ∈ listed ∧ Text.lower a.name = Text.lower name)
      ∧ (∀ before file after a,
          s.searchOrder tree = before ++ file :: after
          → s.loaded? tree file = some a
          → a ∈ listed
            ∨ ∃ earlier ∈ before, ∃ b,
                s.loaded? tree earlier = some b
                ∧ b ∈ listed
                ∧ Text.lower b.name = Text.lower a.name)
      ∧ ∀ directory,
          (shown tree directory).Pairwise fun file other =>
            Text.before file.name other.name = true := by
  intro listed
  have refused {directory : FilePath} (member : directory ∈ s.settings.searchDirectories)
      (apart : ¬ Reachable tree directory)
      : ∃ failure,
          (∀ queries, (s.afterQueries tree queries).Fails tree failure)
          ∧ ∃ other ∈ s.settings.searchDirectories, Refuses tree other failure := by
    obtain ⟨failure, failed, refuses⟩ := search_refused fresh settle member apart
    refine ⟨failure, fun queries => ?_, refuses⟩
    exact fails_of_search ((s.search_afterQueries tree queries).trans failed)
  refine ⟨⟨fun agrees directory member => ?_, fun reachable queries => ?_⟩, ?_,
    pairwise_firsts _, fun name a => ?_, ?_, pairwise_shown tree⟩
  · by_contra apart
    obtain ⟨failure, fails, _⟩ := refused member apart
    have both := (agrees []).list
    rw [(fails []).list] at both
    cases both
  · obtain ⟨next, known, searched, keeps⟩ := search_reachable fresh settle reachable
    exact agrees_of_search ((s.search_afterQueries tree queries).trans searched) keeps
  · rintro ⟨directory, member, apart⟩
    exact refused member apart
  · rw [find?_firsts_eq_some, isCalled, decide_eq_true_iff]
  · intro before file after a order loads
    have either := mem_firsts_or_taken (before.filterMap (s.loaded? tree)) a
      (after.filterMap (s.loaded? tree))
    rw [← List.filterMap_cons_some loads, ← List.filterMap_append, ← order] at either
    rcases either with stays | ⟨b, earlier, stays, called⟩
    · exact .inl stays
    · obtain ⟨place, isEarlier, loadsB⟩ := List.mem_filterMap.mp earlier
      exact .inr ⟨place, isEarlier, b, loadsB, stays, of_decide_eq_true called⟩

-----------------------------------------------------------------------------------------
-- Two files with one name
-----------------------------------------------------------------------------------------

/-- A script that names a module and calls its algorithm by the base name of the other script. -/
def namedText : Text :=
  "rec.name = \"B\"\nrec.module = M"

/-- Two scripts whose algorithms have one name, upper and lower case aside. -/
def namesakes : FileTree :=
  fileAndScript (namedText.flatMap Utf8.encodeOne)

theorem configurations_namesakes
    : Loading.configurations namesakes someDirectory = .ok [someFile, someScript] := by
  cbv

theorem files_namesakes : namesakes.files FilePath.bundledDirectory = .ok [] := by
  rw [FileTree.files, namesakes, find_bundled]
  cbv

theorem searchOrder_namesakes : someService.searchOrder namesakes = [someFile, someScript] := by
  have bundled : shown namesakes FilePath.bundledDirectory = [] := by
    rw [shown, Loading.isDirectory, FileTree.isDirectory, FileTree.find?, namesakes, find_bundled,
      ← namesakes, Loading.configurations, files_namesakes]
    rfl
  have first : shown namesakes someDirectory = [someFile, someScript] := by
    rw [shown, configurations_namesakes]
    rfl
  change [someDirectory, FilePath.bundledDirectory].flatMap (shown namesakes) = _
  rw [List.flatMap_cons, List.flatMap_singleton, first, bundled, List.append_nil]

theorem loaded?_of_record {file : FilePath} {r : Record} {a : Algorithm}
    (kept : Loading.record namesakes someService.settings file = .ok r)
    (made : (Algorithm.ofRecord someService.registry true (some file.stem) (some file.text)
        r).outcome
      = .ok a)
    : someService.loaded? namesakes file = some a := by
  rw [loaded?, Loading.algorithm, kept]
  exact congrArg Except.toOption made

theorem loaded_someFile
    : ∃ a, someService.loaded? namesakes someFile = some a ∧ a.name = "B" := by
  let r := Record.ofList
    [(Path.name, .text "B"), (Path.module, .reference ⟨"M", Algorithm.isComponentName_m⟩)]
  have encoded : Utf8.encode namedText = .ok (namedText.flatMap Utf8.encodeOne) := rfl
  have kept : Loading.record namesakes someService.settings someFile = .ok r := by
    rw [Loading.record_of_stored (by decide) encoded rfl]
    cbv
  exact ⟨_, loaded?_of_record kept rfl, rfl⟩

theorem loaded_someScript
    : ∃ a, someService.loaded? namesakes someScript = some a ∧ a.name = "b" := by
  let r := Record.ofList [(Path.module, .reference ⟨"M", Algorithm.isComponentName_m⟩)]
  have encoded : Utf8.encode scriptText = .ok (scriptText.flatMap Utf8.encodeOne) := rfl
  have kept : Loading.record namesakes someService.settings someScript = .ok r := by
    rw [Loading.record_of_stored (by decide) encoded rfl]
    rfl
  exact ⟨_, loaded?_of_record kept rfl, rfl⟩

/-- Of the namesakes the first stays. -/
theorem firsts_namesakes
    : ∃ a,
        firsts ((someService.searchOrder namesakes).filterMap (someService.loaded? namesakes)) = [a]
        ∧ a.name = "B" := by
  obtain ⟨a, loads, named⟩ := loaded_someFile
  obtain ⟨b, loadsB, namedB⟩ := loaded_someScript
  have taken : isCalled a.name b = true := by
    rw [isCalled, named, namedB]
    decide
  refine ⟨a, ?_, named⟩
  rw [searchOrder_namesakes, List.filterMap_cons_some loads, List.filterMap_cons_some loadsB]
  simp [firsts, taken]

theorem settles_of_loaded? {file : FilePath} {a : Algorithm}
    (loads : s.loaded? tree file = some a)
    : s.Settles tree file := by
  rw [loaded?] at loads
  refine .inl ⟨a, ?_⟩
  cases made : (Loading.algorithm tree s.settings s.registry s.settings.strict file).outcome with
  | ok b =>
      rw [made] at loads
      cases loads
      rfl
  | error failure =>
      rw [made] at loads
      cases loads

theorem settle_namesakes
    : ∀ file ∈ someService.searchOrder namesakes, someService.Settles namesakes file := by
  obtain ⟨a, loads, _⟩ := loaded_someFile
  obtain ⟨b, loadsB, _⟩ := loaded_someScript
  rw [searchOrder_namesakes]
  simp only [List.forall_mem_cons, List.not_mem_nil, false_imp_iff, implies_true, and_true]
  exact ⟨settles_of_loaded? loads, settles_of_loaded? loadsB⟩

/-- Whatever is asked before, the first of the namesakes is listed alone and found by their name. -/
theorem agrees_namesakes
    : someService.found = none
      ∧ (∀ file ∈ someService.searchOrder namesakes, someService.Settles namesakes file)
      ∧ ∃ a : Algorithm,
          a.name = "B"
          ∧ ∀ queries, (someService.afterQueries namesakes queries).Agrees namesakes [a] := by
  refine ⟨rfl, settle_namesakes, ?_⟩
  obtain ⟨a, stays, named⟩ := firsts_namesakes
  have agrees := (agrees_iff_reachable rfl settle_namesakes).1.mpr ?_
  · exact ⟨a, named, stays ▸ agrees⟩
  · have taken := canTakeUp_of_files rfl configurations_namesakes
      (searchOrder_namesakes ▸ settle_namesakes) (find_bundled _) files_namesakes
    intro directory member
    exact someService.reachable_of_canTakeUp namesakes (taken directory member)

-----------------------------------------------------------------------------------------
-- A search directory with a long name
-----------------------------------------------------------------------------------------

/-- A name with one byte too many. -/
def longName : Text :=
  List.replicate 256 CodePoint.underscore

/-- A search directory with a long name. -/
def longDirectory : FilePath :=
  ⟨.working, [longName]⟩

/-- The service with the long directory before the other one. -/
def behindLong : Service :=
  { someService with
    settings := { someService.settings with scriptDirectories := [longDirectory, someDirectory] } }

theorem follow_of_isTooLong {here : FilePath} (leads : tree.nodeAt? here = some .directory)
    {part : Text} (tooLong : FileTree.isTooLong part = true) (rest : List Text)
    : tree.follow here (part :: rest) = .error .nameTooLong := by
  rw [FileTree.follow, leads]
  exact if_pos tooLong

theorem isDirectory_longDirectory
    : Loading.isDirectory namesakes longDirectory
      = .error (.file ⟨.nameTooLong, longDirectory.text⟩) := by
  have isText : longDirectory.parts.any (·.contains CodePoint.null) = false := by decide +kernel
  have short : FileTree.isLongPath longDirectory = false := by decide +kernel
  have tooLong : FileTree.isTooLong longName = true := by decide +kernel
  have top : namesakes.nodeAt? ⟨.working, []⟩ = some .directory := rfl
  have lost : namesakes.follow { longDirectory with parts := [] } longDirectory.parts
      = .error .nameTooLong :=
    follow_of_isTooLong top tooLong []
  have refused : namesakes.find longDirectory = .error ⟨.nameTooLong, longDirectory.text⟩ := by
    simp only [FileTree.find, isText, short, lost, Except.mapError, Bool.false_eq_true, if_false]
  rw [isDirectory_eq, refused]
  rfl

theorem searchOrder_behindLong
    : behindLong.searchOrder namesakes = someService.searchOrder namesakes := by
  have nothing : shown namesakes longDirectory = [] := by
    rw [shown, isDirectory_longDirectory]
  change [longDirectory, someDirectory, FilePath.bundledDirectory].flatMap (shown namesakes)
    = [someDirectory, FilePath.bundledDirectory].flatMap (shown namesakes)
  rw [List.flatMap_cons, nothing, List.nil_append]

/-- The files behind a directory with a long name settle and one of them stays, but it is neither
listed nor found.
-/
theorem fails_behindLong
    : let listed := firsts
        ((behindLong.searchOrder namesakes).filterMap (behindLong.loaded? namesakes))
      behindLong.found = none
      ∧ (∀ file ∈ behindLong.searchOrder namesakes, behindLong.Settles namesakes file)
      ∧ (∃ a, listed = [a])
      ∧ behindLong.Fails namesakes (.file ⟨.nameTooLong, longDirectory.text⟩)
      ∧ ¬ ∀ queries, (behindLong.afterQueries namesakes queries).Agrees namesakes listed := by
  intro listed
  have fails : behindLong.Fails namesakes (.file ⟨.nameTooLong, longDirectory.text⟩) := by
    refine fails_of_search ?_
    have directories : behindLong.settings.searchDirectories
        = [longDirectory, someDirectory, FilePath.bundledDirectory] := rfl
    rw [search_outcome, show behindLong.found = none from rfl, directories]
    dsimp only
    rw [List.foldlM_cons, behindLong.takeUpDirectory_refuses namesakes
      (.inl isDirectory_longDirectory)]
    rfl
  obtain ⟨a, stays, _⟩ := firsts_namesakes
  have kept : listed = [a] := by
    change firsts ((behindLong.searchOrder namesakes).filterMap (someService.loaded? namesakes)) = _
    rw [searchOrder_behindLong]
    exact stays
  refine ⟨rfl, ?_, ⟨a, kept⟩, fails, fun agrees => ?_⟩
  · rw [searchOrder_behindLong]
    exact settle_namesakes
  · have both := (agrees []).list
    rw [show behindLong.afterQueries namesakes [] = behindLong from rfl, fails.list] at both
    cases both

end Service
end Recommender
