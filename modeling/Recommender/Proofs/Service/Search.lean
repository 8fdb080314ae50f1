import Recommender.Proofs.Service.Listing
import Recommender.Proofs.Text.Order

/-! Searching for algorithms. The files of the search directories are taken up in order, and the
first algorithm of each name stays, upper and lower case aside. A search directory can be asked for
unless a path is too long for that: its own, or the path by it to anything in it.
-/

namespace Recommender

namespace Service

-----------------------------------------------------------------------------------------
-- The first algorithm of each name
-----------------------------------------------------------------------------------------

/-- Whether an algorithm has a name, upper and lower case aside. -/
def isCalled (name : Text) (a : Algorithm) : Bool :=
  Text.lower a.name = Text.lower name

/-- The first algorithm of each name. -/
def firsts : List Algorithm → List Algorithm
  | [] => []
  | a :: rest => a :: (firsts rest).filter fun b => !isCalled a.name b

/-- Whatever name is looked for, its first algorithm has stayed, by list induction. -/
theorem find?_firsts (name : Text) (found : List Algorithm)
    : (firsts found).find? (isCalled name) = found.find? (isCalled name) := by
  induction found with
  | nil => rfl
  | cons a rest ih =>
      rw [firsts, List.find?_cons, List.find?_cons, List.find?_filter, ← ih]
      cases own : isCalled name a with
      | true => rfl
      | false =>
          have apart (b : Algorithm) (called : isCalled name b = true)
              : isCalled a.name b = false := by
            simp only [isCalled, decide_eq_true_eq, decide_eq_false_iff_not] at own called ⊢
            exact fun same => own (same.symm.trans called)
          refine congrArg (fun p => (firsts rest).find? p) (funext fun b => ?_)
          cases called : isCalled name b <;> simp [apart b, called]

/-- One more algorithm stays unless its name is taken, by list induction. -/
theorem firsts_concat (found : List Algorithm) (a : Algorithm)
    : firsts (found ++ [a])
      = if (found.find? (isCalled a.name)).isSome then firsts found
        else firsts found ++ [a] := by
  induction found with
  | nil => rfl
  | cons first rest ih =>
      rw [List.cons_append, firsts, ih, List.find?_cons]
      cases same : isCalled a.name first with
      | true =>
          have shadowed : isCalled first.name a = true := by
            simpa [isCalled, eq_comm] using same
          split <;> simp [firsts, shadowed]
      | false =>
          have stays : isCalled first.name a = false := by
            simpa [isCalled, eq_comm] using same
          dsimp only
          split <;> simp [firsts, stays]

/-- The algorithms that stay have different names, by list induction. -/
theorem pairwise_firsts (found : List Algorithm)
    : (firsts found).Pairwise fun a b => Text.lower a.name ≠ Text.lower b.name := by
  induction found with
  | nil => exact .nil
  | cons a rest ih =>
      refine .cons (fun b member => ?_) (ih.filter _)
      have apart := (List.mem_filter.mp member).2
      simp only [isCalled, Bool.not_eq_true', decide_eq_false_iff_not] at apart
      exact fun same => apart same.symm

/-- An algorithm is found by a name exactly if it stays and has the name. -/
theorem find?_firsts_eq_some {name : Text} {found : List Algorithm} {a : Algorithm}
    : (firsts found).find? (isCalled name) = some a
      ↔ a ∈ firsts found ∧ isCalled name a = true := by
  constructor
  · exact fun there => ⟨List.mem_of_find?_eq_some there, List.find?_some there⟩
  · rintro ⟨member, called⟩
    obtain ⟨b, there⟩ : ∃ b, (firsts found).find? (isCalled name) = some b :=
      Option.isSome_iff_exists.mp (List.find?_isSome.mpr ⟨a, member, called⟩)
    have alsoCalled : isCalled name b = true := List.find?_some there
    have same : Text.lower a.name = Text.lower b.name :=
      (of_decide_eq_true called).trans (of_decide_eq_true alsoCalled).symm
    have distinct : ((firsts found).map fun a => Text.lower a.name).Nodup :=
      List.pairwise_map.mpr (pairwise_firsts found)
    rw [there, List.inj_on_of_nodup_map distinct member (List.mem_of_find?_eq_some there) same]

/-- Each algorithm stays, or one of the same name has stayed that was found before it. -/
theorem mem_firsts_or_taken (before : List Algorithm) (a : Algorithm) (after : List Algorithm)
    : a ∈ firsts (before ++ a :: after)
      ∨ ∃ b ∈ before, b ∈ firsts (before ++ a :: after) ∧ isCalled a.name b = true := by
  obtain ⟨b, there⟩ : ∃ b, (before ++ a :: after).find? (isCalled a.name) = some b :=
    Option.isSome_iff_exists.mp (List.find?_isSome.mpr ⟨a, by simp, by simp [isCalled]⟩)
  have stays := List.mem_of_find?_eq_some ((find?_firsts a.name _).trans there)
  rw [List.find?_append] at there
  cases taken : before.find? (isCalled a.name) with
  | some holder =>
      rw [taken, Option.some_or, Option.some.injEq] at there
      subst there
      exact .inr ⟨holder, List.mem_of_find?_eq_some taken, stays, List.find?_some taken⟩
  | none =>
      rw [taken, Option.none_or, List.find?_cons_of_pos (by simp [isCalled])] at there
      cases there
      exact .inl stays

-----------------------------------------------------------------------------------------
-- Taking up files
-----------------------------------------------------------------------------------------

/-- A table has the first algorithm of each name, in order. -/
def Keeps (known : Table Text Algorithm) (found : List Algorithm) : Prop :=
  known.entries = (firsts found).map fun a => (Text.lower a.name, a)

namespace Keeps

variable {known : Table Text Algorithm} {found : List Algorithm}

theorem empty : Keeps ∅ [] :=
  rfl

theorem values (keeps : Keeps known found) : known.values = firsts found := by
  rw [Table.values, keeps, List.map_map]
  exact List.map_id _

theorem find? (keeps : Keeps known found) (name : Text)
    : known.find? (Text.lower name) = (firsts found).find? (isCalled name) := by
  rw [Table.find?, keeps]
  generalize firsts found = kept
  induction kept with
  | nil => rfl
  | cons a rest ih =>
      rw [List.map_cons, Table.lookup_cons_eq, List.find?_cons, ih]
      by_cases same : Text.lower a.name = Text.lower name
      · simp [isCalled, same]
      · simp [isCalled, same, Ne.symm same]

/-- A table goes on with an algorithm whose name is not taken. -/
theorem put (keeps : Keeps known found) {a : Algorithm}
    (free : known.find? (Text.lower a.name) = none)
    : Keeps (known.put (Text.lower a.name) a) (found ++ [a]) := by
  have absent : Text.lower a.name ∉ known.entries.map Prod.fst := by
    intro member
    obtain ⟨holder, taken⟩ := Table.mem_keys.mp member
    rw [free] at taken
    cases taken
  have notFound : found.find? (isCalled a.name) = none := by
    rw [← find?_firsts, ← keeps.find?, free]
  have entries : (known.put (Text.lower a.name) a).entries
      = known.entries ++ [(Text.lower a.name, a)] :=
    Table.putEntry_of_absent absent a
  rw [Keeps, entries, firsts_concat, notFound, keeps]
  simp

/-- A table stays as it is for an algorithm whose name is taken. -/
theorem pass (keeps : Keeps known found) {a holder : Algorithm}
    (taken : known.find? (Text.lower a.name) = some holder)
    : Keeps known (found ++ [a]) := by
  have isFound : found.find? (isCalled a.name) = some holder := by
    rw [← find?_firsts, ← keeps.find?, taken]
  rw [Keeps, firsts_concat, isFound, Option.isSome_some, if_pos rfl]
  exact keeps

/-- A run of steps each of which finds algorithms finds those of all steps, by list induction. -/
theorem foldlM {α : Type} {step : Table Text Algorithm → α → Except Failure (Table Text Algorithm)}
    {finds : α → List Algorithm} {items : List α}
    (each : ∀ item ∈ items, ∀ known found,
      Keeps known found → ∃ next, step known item = .ok next ∧ Keeps next (found ++ finds item))
    (keeps : Keeps known found)
    : ∃ next, items.foldlM step known = .ok next ∧ Keeps next (found ++ items.flatMap finds) := by
  induction items generalizing known found with
  | nil => exact ⟨known, rfl, by simpa using keeps⟩
  | cons item rest ih =>
      obtain ⟨next, made, keepsNext⟩ := each item List.mem_cons_self known found keeps
      obtain ⟨last, run, keepsLast⟩ :=
        ih (fun other member => each other (List.mem_cons_of_mem item member)) keepsNext
      refine ⟨last, ?_, by simpa using keepsLast⟩
      rw [List.foldlM_cons, made]
      exact run

end Keeps

variable (s : Service) (tree : FileTree)

/-- The algorithm of a file, if it is loaded. -/
def loaded? (file : FilePath) : Option Algorithm :=
  (Loading.algorithm tree s.settings s.registry s.settings.strict file).outcome.toOption

/-- A file that settles is taken up with the algorithm that is loaded from it. -/
theorem takeUp_keeps {file : FilePath} (settles : s.Settles tree file)
    {known : Table Text Algorithm} {found : List Algorithm} (keeps : Keeps known found)
    : ∃ next,
        (s.takeUp tree known file).outcome = .ok next
        ∧ Keeps next (found ++ (s.loaded? tree file).toList) := by
  rw [takeUp, loaded?]
  rcases settles with ⟨a, made⟩ | ⟨p, failed⟩
  · simp only [made]
    cases holder : known.find? (Text.lower a.name) with
    | some b => exact ⟨known, rfl, keeps.pass holder⟩
    | none => exact ⟨known.put (Text.lower a.name) a, rfl, keeps.put holder⟩
  · simp only [failed]
    exact ⟨known, rfl, by simpa [Except.toOption] using keeps⟩

-----------------------------------------------------------------------------------------
-- Search directories
-----------------------------------------------------------------------------------------

/-- The configurations that a search directory shows; what is no directory shows none. -/
def shown (directory : FilePath) : List FilePath :=
  match Loading.isDirectory tree directory, Loading.configurations tree directory with
  | .ok true, .ok files => files
  | _, _ => []

/-- The files in search order: those of the script directories one after the other, then the
bundled ones.
-/
def searchOrder : List FilePath :=
  (s.settings.scriptDirectories ++ [FilePath.bundledDirectory]).flatMap (shown tree)

/-- What is in a directory is sorted by name. -/
theorem pairwise_files {directory : FilePath} {names : List FilePath}
    (given : tree.files directory = .ok names)
    : names.Pairwise fun file other => Text.before file.name other.name = true := by
  rw [FileTree.files] at given
  split at given
  · split at given
    · cases given
    · cases given
      simpa [List.pairwise_map, FileTree.name_child] using Text.pairwise_mergeSort _
  · cases given
  · cases given

/-- The files of a directory are shown by name. -/
theorem pairwise_shown (directory : FilePath)
    : (shown tree directory).Pairwise fun file other =>
        Text.before file.name other.name = true := by
  rw [shown]
  split
  · next files _ listed =>
      rw [Loading.configurations] at listed
      split at listed
      · next names given =>
          cases listed
          exact (pairwise_files tree given).filter _
      · cases listed
  · exact .nil

/-- A search directory can be asked for: neither its path is too long nor the path by it to anything
that is in it.
-/
def Reachable (directory : FilePath) : Prop :=
  (∀ fault, tree.find directory = .error fault → fault.cause ≠ .nameTooLong)
  ∧ ∀ place,
      tree.find directory = .ok (place, .directory)
      → ∀ entry ∈ tree.nodes.keys, ∀ name,
          FileTree.shownName? place entry = some name
          → FileTree.isLongPath (directory.child name) = false

/-- The failure of a search directory that cannot be asked for. -/
def Refuses (directory : FilePath) (failure : Failure) : Prop :=
  Loading.isDirectory tree directory = .error failure
  ∨ Loading.isDirectory tree directory = .ok true
    ∧ Loading.configurations tree directory = .error failure

/-- No name in a directory is too long exactly if none of those that it shows is. -/
theorem longName?_eq_none {path place : FilePath}
    : tree.longName? path place = none
      ↔ ∀ entry ∈ tree.nodes.keys, ∀ name,
          FileTree.shownName? place entry = some name
          → FileTree.isLongPath (path.child name) = false := by
  rw [FileTree.longName?, List.find?_eq_none]
  simp only [List.mem_mergeSort, List.mem_filterMap, Bool.not_eq_true, forall_exists_index, and_imp]
  exact ⟨fun none entry member name shown => none name entry member shown,
    fun none name entry member shown => none entry member name shown⟩

theorem isDirectory_eq (directory : FilePath)
    : Loading.isDirectory tree directory
      = match tree.find directory with
        | .ok (_, .directory) => .ok true
        | .ok (_, .file _) => .ok false
        | .error fault =>
          if fault.cause = .nameTooLong then .error (.file fault) else .ok false := by
  rw [Loading.isDirectory, FileTree.isDirectory, FileTree.find?]
  cases tree.find directory with
  | ok found => obtain ⟨place, _ | _⟩ := found <;> rfl
  | error fault =>
      dsimp only
      split <;> rfl

/-- The configurations of a directory are listed unless something in it has too long a path. -/
theorem configurations_cases {directory place : FilePath}
    (leads : tree.find directory = .ok (place, .directory))
    : (tree.longName? directory place = none
        ∧ ∃ files, Loading.configurations tree directory = .ok files)
      ∨ (tree.longName? directory place ≠ none
        ∧ ∃ failure, Loading.configurations tree directory = .error failure) := by
  rw [Loading.configurations, FileTree.files, leads]
  dsimp only
  cases tree.longName? directory place with
  | none => exact .inl ⟨rfl, _, rfl⟩
  | some name => exact .inr ⟨Option.some_ne_none name, _, rfl⟩

/-- A search directory can be asked for, and is none or shows its configurations, or it refuses. -/
theorem reachable_cases (directory : FilePath)
    : (Reachable tree directory
        ∧ (Loading.isDirectory tree directory = .ok false
          ∨ ∃ files,
              Loading.isDirectory tree directory = .ok true
              ∧ Loading.configurations tree directory = .ok files))
      ∨ (¬ Reachable tree directory ∧ ∃ failure, Refuses tree directory failure) := by
  have asked := isDirectory_eq tree directory
  cases leads : tree.find directory with
  | error fault =>
      rw [leads] at asked
      by_cases long : fault.cause = .nameTooLong
      · exact .inr ⟨fun reachable => reachable.1 fault leads long, _,
          .inl (asked.trans (if_pos long))⟩
      · refine .inl ⟨⟨fun other same => ?_, fun place same => ?_⟩, .inl (asked.trans (if_neg long))⟩
        · rw [leads] at same
          cases same
          exact long
        · rw [leads] at same
          cases same
  | ok found =>
      obtain ⟨place, node⟩ := found
      have asFound (other : FilePath) (same : tree.find directory = .ok (other, .directory))
          : place = other ∧ node = .directory := by
        rw [leads] at same
        cases same
        exact ⟨rfl, rfl⟩
      have noFault (fault : FileFault) (failed : tree.find directory = .error fault)
          : fault.cause ≠ .nameTooLong := by
        rw [leads] at failed
        cases failed
      rw [leads] at asked
      cases node with
      | file bytes =>
          exact .inl ⟨⟨noFault, fun other same => nomatch (asFound other same).2⟩, .inl asked⟩
      | directory =>
          rcases configurations_cases tree leads with
            ⟨none, files, listed⟩ | ⟨long, failure, refused⟩
          · refine .inl ⟨⟨noFault, fun other same => ?_⟩, .inr ⟨files, asked, listed⟩⟩
            rw [← (asFound other same).1]
            exact (longName?_eq_none tree).mp none
          · refine .inr ⟨fun reachable => long ?_, failure, .inr ⟨asked, refused⟩⟩
            exact (longName?_eq_none tree).mpr (reachable.2 place leads)

/-- A directory that can be asked for is taken up with what is loaded from its files. -/
theorem takeUpDirectory_keeps {directory : FilePath} (reachable : Reachable tree directory)
    (settle : ∀ file ∈ shown tree directory, s.Settles tree file)
    {known : Table Text Algorithm} {found : List Algorithm} (keeps : Keeps known found)
    : ∃ next,
        (s.takeUpDirectory tree known directory).outcome = .ok next
        ∧ Keeps next (found ++ (shown tree directory).filterMap (s.loaded? tree)) := by
  rw [takeUpDirectory_outcome, shown]
  rcases reachable_cases tree directory with ⟨_, none | ⟨files, asked, listed⟩⟩ | ⟨apart, _⟩
  · rw [none]
    exact ⟨known, rfl, by simpa using keeps⟩
  · rw [shown, asked, listed] at settle
    rw [asked, listed, List.filterMap_eq_flatMap_toList]
    exact keeps.foldlM fun file member _ _ keeps => s.takeUp_keeps tree (settle file member) keeps
  · exact absurd reachable apart

theorem canTakeUp_of_reachable {directory : FilePath} (reachable : Reachable tree directory)
    (settle : ∀ file ∈ shown tree directory, s.Settles tree file)
    : s.CanTakeUp tree directory := by
  rw [shown] at settle
  rcases reachable_cases tree directory with ⟨_, none | ⟨files, asked, listed⟩⟩ | ⟨apart, _⟩
  · exact .inl none
  · rw [asked, listed] at settle
    exact .inr ⟨files, asked, listed, settle⟩
  · exact absurd reachable apart

theorem takeUpDirectory_refuses {directory : FilePath} {failure : Failure}
    (refuses : Refuses tree directory failure) (known : Table Text Algorithm)
    : (s.takeUpDirectory tree known directory).outcome = .error failure := by
  rw [takeUpDirectory_outcome]
  rcases refuses with refused | ⟨asked, refused⟩
  · rw [refused]
    rfl
  · rw [asked, refused]
    rfl

/-- What can be taken up can be asked for. -/
theorem reachable_of_canTakeUp {directory : FilePath} (taken : s.CanTakeUp tree directory)
    : Reachable tree directory := by
  rcases reachable_cases tree directory with ⟨reachable, _⟩ | ⟨_, failure, refuses⟩
  · exact reachable
  · obtain ⟨known, made⟩ := (s.takeUpDirectory_isOk tree directory ∅).mpr taken
    rw [s.takeUpDirectory_refuses tree refuses] at made
    cases made

end Service
end Recommender
