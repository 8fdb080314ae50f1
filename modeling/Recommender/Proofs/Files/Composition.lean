import Mathlib
import Recommender.Files.Loading
import Recommender.Proofs.Algorithm.Accounting
import Recommender.Proofs.Algorithm.Overlay
import Recommender.Proofs.Files.Newlines
import Recommender.Proofs.Notice

/-! Several paths loaded at once. The files of all paths are loaded one by one, each as if it were
alone, and their algorithms are put into one table; so the table of two lists of paths is the table
of the first with that of the second laid over it.
-/

namespace Recommender

namespace Loading

variable (tree : FileTree) (settings : Settings) (registry : Registry) (strict : Bool)

-----------------------------------------------------------------------------------------
-- Files
-----------------------------------------------------------------------------------------

/-- The configuration files that one path stands for. -/
def filesAt (path : FilePath) : Except Failure (List FilePath) := do
  if !(← pathExists tree path) then throw (unusable path .absent)
  if ← isDirectory tree path then configurations tree path else pure [path]

theorem filesOf_cons_eq_ok {path : FilePath} {rest files : List FilePath}
    : filesOf tree (path :: rest) = .ok files
      ↔ ∃ first others,
          filesAt tree path = .ok first
          ∧ filesOf tree rest = .ok others
          ∧ first ++ others = files := by
  have step : filesOf tree (path :: rest) = do
      let first ← filesAt tree path
      let others ← filesOf tree rest
      return first ++ others := by
    rw [filesOf, filesAt]
    cases pathExists tree path with
    | error failure => rfl
    | ok found =>
        cases found with
        | false => rfl
        | true =>
            cases isDirectory tree path with
            | error failure => rfl
            | ok directory => cases directory <;> rfl
  rw [step]
  cases filesAt tree path <;> cases filesOf tree rest <;>
    simp [bind, Except.bind, pure, Except.pure]

/-- The files of two lists of paths are those of the first and then those of the second, by list
induction.
-/
theorem filesOf_append_eq_ok {ps qs files : List FilePath}
    : filesOf tree (ps ++ qs) = .ok files
      ↔ ∃ front back,
          filesOf tree ps = .ok front ∧ filesOf tree qs = .ok back ∧ front ++ back = files := by
  induction ps generalizing files with
  | nil => simp [filesOf]
  | cons path rest ih =>
      simp only [List.cons_append, filesOf_cons_eq_ok, ih]
      constructor
      · rintro ⟨first, _, here, ⟨front, back, there, later, rfl⟩, rfl⟩
        exact ⟨first ++ front, back, ⟨first, front, here, there, rfl⟩, later,
          List.append_assoc ..⟩
      · rintro ⟨_, back, ⟨first, front, here, there, rfl⟩, later, rfl⟩
        exact ⟨first, front ++ back, here, ⟨front, back, there, later, rfl⟩,
          (List.append_assoc ..).symm⟩

-----------------------------------------------------------------------------------------
-- Loading
-----------------------------------------------------------------------------------------

/-- An algorithm under its name. -/
def named (a : Algorithm) : Text × Algorithm :=
  (a.name, a)

/-- Files that give algorithms, each loaded by itself. -/
def LoadEach (files : List FilePath) (made : List Algorithm) : Prop :=
  List.Forall₂ (fun file a => (algorithm tree settings registry strict file).outcome = .ok a)
    files made

/-- The table of a run over files holds what each file gives by itself, put in one after the other,
by list induction.
-/
theorem loadFiles_eq_ok {files : List FilePath} {loaded table : Table Text Algorithm}
    : (loadFiles tree settings registry strict loaded files).outcome = .ok table
      ↔ ∃ made,
          LoadEach tree settings registry strict files made
          ∧ loaded.putAll (made.map named) = table := by
  induction files generalizing loaded with
  | nil => simp [loadFiles, LoadEach, Table.putAll, pure, Logged.pure]
  | cons file rest ih =>
      have step : (loadFiles tree settings registry strict loaded (file :: rest)).outcome
          = (algorithm tree settings registry strict file).outcome >>= fun a =>
              (loadFiles tree settings registry strict (loaded.put a.name a) rest).outcome := by
        rw [loadFiles, Logged.outcome_bind]
        refine congrArg _ (funext fun a => ?_)
        cases loaded.find? a.name <;> rfl
      rw [step]
      cases loads : (algorithm tree settings registry strict file).outcome with
      | error failure => simp [LoadEach, List.forall₂_cons_left_iff, loads, bind, Except.bind]
      | ok a =>
          simp only [bind, Except.bind, ih, LoadEach, List.forall₂_cons_left_iff, loads]
          constructor
          · rintro ⟨made, each, rfl⟩
            exact ⟨a :: made, ⟨a, made, rfl, each, rfl⟩, rfl⟩
          · rintro ⟨_, ⟨b, made, same, each, rfl⟩, rfl⟩
            obtain rfl := Except.ok.inj same
            exact ⟨made, each, rfl⟩

/-- Paths give a table exactly when they stand for files that give algorithms one by one. -/
theorem algorithms_eq_ok {paths : List FilePath} {table : Table Text Algorithm}
    : (algorithms tree settings registry strict paths).outcome = .ok table
      ↔ ∃ files made,
          filesOf tree paths = .ok files
          ∧ LoadEach tree settings registry strict files made
          ∧ Table.ofList (made.map named) = table := by
  rw [algorithms, Logged.outcome_bind]
  cases found : filesOf tree paths with
  | error failure => simp [Logged.lift, bind, Except.bind]
  | ok files => simp [Logged.lift, bind, Except.bind, loadFiles_eq_ok]; rfl

/-- In the table of algorithms a name leads to the last algorithm of that name. -/
theorem find?_named {made : List Algorithm} {name : Text} {a : Algorithm}
    : (Table.ofList (made.map named)).find? name = some a
      ↔ ∃ before after,
          made = before ++ a :: after ∧ a.name = name ∧ ∀ b ∈ after, b.name ≠ name := by
  have last : (Table.ofList (made.map named)).find? name
      = made.reverse.find? fun a => a.name = name := by
    rw [Table.find?_ofList, List.filter_map, List.getLast?_map, Option.map_map,
      List.getLast?_eq_head?_reverse, ← List.filter_reverse, List.head?_filter]
    exact Option.map_id'
  rw [last, List.find?_eq_some_iff_append]
  constructor
  · rintro ⟨called, after, before, form, others⟩
    refine ⟨before.reverse, after.reverse, ?_, by simpa using called, fun b member => ?_⟩
    · simpa using congrArg List.reverse form
    · simpa using others b (List.mem_reverse.mp member)
  · rintro ⟨before, after, rfl, called, others⟩
    refine ⟨by simpa using called, after.reverse, before.reverse, by simp, fun b member => ?_⟩
    simpa using others b (List.mem_reverse.mp member)

-----------------------------------------------------------------------------------------
-- Two lists of paths
-----------------------------------------------------------------------------------------

/-- Two lists of paths give a table together exactly when each of them gives one, and it is the
first table with the second laid over it. Every table holds, under each name, what the last file
with an algorithm of that name gives by itself.
-/
theorem algorithms_append (ps qs : List FilePath)
    : ((∃ table, (algorithms tree settings registry strict (ps ++ qs)).outcome = .ok table)
        ↔ (∃ first, (algorithms tree settings registry strict ps).outcome = .ok first)
          ∧ ∃ second, (algorithms tree settings registry strict qs).outcome = .ok second)
      ∧ (∀ first second,
          (algorithms tree settings registry strict ps).outcome = .ok first
          → (algorithms tree settings registry strict qs).outcome = .ok second
          → (algorithms tree settings registry strict (ps ++ qs)).outcome
              = .ok (first.overlay second)
            ∧ (first.overlay second).keys
              = first.keys ++ second.keys.filter (fun name => !first.contains name)
            ∧ ∀ name,
                (first.overlay second).find? name
                  = (second.find? name).or (first.find? name))
      ∧ ∀ table,
          (algorithms tree settings registry strict (ps ++ qs)).outcome = .ok table
          → ∃ files made,
              filesOf tree (ps ++ qs) = .ok files
              ∧ List.Forall₂
                  (fun file a => (algorithm tree settings registry strict file).outcome = .ok a)
                  files made
              ∧ ∀ name a,
                  table.find? name = some a
                    ↔ ∃ before after,
                        made = before ++ a :: after
                        ∧ a.name = name
                        ∧ ∀ b ∈ after, b.name ≠ name := by
  have both {first second : Table Text Algorithm}
      (front : (algorithms tree settings registry strict ps).outcome = .ok first)
      (back : (algorithms tree settings registry strict qs).outcome = .ok second)
      : (algorithms tree settings registry strict (ps ++ qs)).outcome
        = .ok (first.overlay second) := by
    obtain ⟨files, made, found, each, rfl⟩ :=
      (algorithms_eq_ok tree settings registry strict).mp front
    obtain ⟨others, more, foundOthers, eachOther, rfl⟩ :=
      (algorithms_eq_ok tree settings registry strict).mp back
    refine (algorithms_eq_ok tree settings registry strict).mpr
      ⟨files ++ others, made ++ more, ?_, List.rel_append each eachOther, ?_⟩
    · exact (filesOf_append_eq_ok tree).mpr ⟨files, others, found, foundOthers, rfl⟩
    · rw [List.map_append, Table.ofList_append]
  refine ⟨⟨?_, ?_⟩, fun first second front back => ?_, fun table loaded => ?_⟩
  · rintro ⟨table, loaded⟩
    obtain ⟨all, made, found, each, -⟩ :=
      (algorithms_eq_ok tree settings registry strict).mp loaded
    obtain ⟨files, others, foundFirst, foundOthers, rfl⟩ := (filesOf_append_eq_ok tree).mp found
    have eachFirst := List.forall₂_take files.length each
    have eachOther := List.forall₂_drop files.length each
    rw [List.take_left] at eachFirst
    rw [List.drop_left] at eachOther
    exact ⟨⟨_, (algorithms_eq_ok tree settings registry strict).mpr
        ⟨files, _, foundFirst, eachFirst, rfl⟩⟩,
      _, (algorithms_eq_ok tree settings registry strict).mpr
        ⟨others, _, foundOthers, eachOther, rfl⟩⟩
  · rintro ⟨⟨first, front⟩, second, back⟩
    exact ⟨_, both front back⟩
  · exact ⟨both front back, Table.keys_overlay_contains first second,
      Table.find?_overlay first second⟩
  · obtain ⟨files, made, found, each, rfl⟩ :=
      (algorithms_eq_ok tree settings registry strict).mp loaded
    exact ⟨files, made, found, each, fun name a => find?_named⟩

-----------------------------------------------------------------------------------------
-- Two scripts with one name
-----------------------------------------------------------------------------------------

/-- A directory with scripts. -/
def scriptDirectory : FilePath :=
  ⟨.working, ["d"]⟩

/-- A script that gives its algorithm the name of the other script. -/
def renamedScript : Text :=
  "rec.name = \"b\"\nrec.module = M"

/-- A script that gives its algorithm no name. -/
def namelessScript : Text :=
  "rec.module = M"

/-- Two scripts in one directory whose algorithms have one name. -/
def scriptsOfOneName : FileTree :=
  ⟨Table.ofList
    [(scriptDirectory.child "a.rec", .file (renamedScript.flatMap Utf8.encodeOne)),
      (scriptDirectory.child "b.rec", .file (namelessScript.flatMap Utf8.encodeOne))]⟩

/-- A registry of one module. -/
def singleModule : Registry :=
  Registry.empty.insert (Algorithm.plainModule ⟨"M", Algorithm.isComponentName_m⟩)

/-- What one of the scripts gives by itself. -/
def Gives (name : Text) (a : Algorithm) : Prop :=
  (algorithm scriptsOfOneName plainSettings singleModule true
      (scriptDirectory.child name)).outcome = .ok a
  ∧ a.name = "b"

theorem gives_of_toRecord {name t : Text} {r : Record} {a : Algorithm}
    (script : (scriptDirectory.child name).extension ∈ Settings.scriptExtensions)
    (encoded : Utf8.encode t = .ok (t.flatMap Utf8.encodeOne))
    (stored : scriptsOfOneName.read (scriptDirectory.child name)
      = .ok (t.flatMap Utf8.encodeOne))
    (read : Script.toRecord (some (scriptDirectory.child name).text) plainSettings.rootName
        t.unifyNewlines
      = .ok r)
    (made : (Algorithm.ofRecord singleModule true (some (scriptDirectory.child name).stem)
        (some (scriptDirectory.child name).text) r).outcome
      = .ok a)
    (called : a.name = "b")
    : Gives name a := by
  refine ⟨?_, called⟩
  rw [algorithm, record_of_stored script encoded stored, read]
  exact made

theorem gives_renamed : ∃ a, Gives "a.rec" a := by
  let r := Record.ofList
    [(Path.name, .text "b"), (Path.module, .reference ⟨"M", Algorithm.isComponentName_m⟩)]
  have read : Script.toRecord (some (scriptDirectory.child "a.rec").text) plainSettings.rootName
      renamedScript.unifyNewlines
      = .ok r := by cbv
  exact ⟨_, gives_of_toRecord (by decide) rfl rfl read rfl rfl⟩

theorem gives_nameless : ∃ b, Gives "b.rec" b := by
  let r := Record.ofList [(Path.module, .reference ⟨"M", Algorithm.isComponentName_m⟩)]
  have read : Script.toRecord (some (scriptDirectory.child "b.rec").text) plainSettings.rootName
      namelessScript.unifyNewlines
      = .ok r := rfl
  exact ⟨_, gives_of_toRecord (by decide) rfl rfl read rfl rfl⟩

/-- The directory gives the second script under the name of both, and the first script behind it
takes its place.
-/
theorem algorithms_append_one_name
    : ∃ a b,
        Gives "a.rec" a
        ∧ Gives "b.rec" b
        ∧ (algorithms scriptsOfOneName plainSettings singleModule true
            [scriptDirectory]).outcome
          = .ok (Table.ofList [("b", b)])
        ∧ (algorithms scriptsOfOneName plainSettings singleModule true
            ([scriptDirectory] ++ [scriptDirectory.child "a.rec"])).outcome
          = .ok (Table.ofList [("b", a)]) := by
  obtain ⟨a, loadsA, calledA⟩ := gives_renamed
  obtain ⟨b, loadsB, calledB⟩ := gives_nameless
  have under (c : Algorithm) (called : c.name = "b") : named c = (Text.ofString "b", c) := by
    rw [named, called]
  have first : (algorithms scriptsOfOneName plainSettings singleModule true
      [scriptDirectory]).outcome
      = .ok (Table.ofList [("b", b)]) := by
    refine (algorithms_eq_ok _ _ _ _).mpr ⟨_, [a, b],
      show _ = Except.ok [scriptDirectory.child "a.rec", scriptDirectory.child "b.rec"] by cbv,
      .cons loadsA (.cons loadsB .nil), ?_⟩
    rw [List.map_cons, List.map_singleton, under a calledA, under b calledB]
    rfl
  have second : (algorithms scriptsOfOneName plainSettings singleModule true
      [scriptDirectory.child "a.rec"]).outcome
      = .ok (Table.ofList [("b", a)]) := by
    refine (algorithms_eq_ok _ _ _ _).mpr ⟨_, [a],
      show _ = Except.ok [scriptDirectory.child "a.rec"] by cbv, .cons loadsA .nil, ?_⟩
    rw [List.map_singleton, under a calledA]
  refine ⟨a, b, ⟨loadsA, calledA⟩, ⟨loadsB, calledB⟩, first, ?_⟩
  obtain ⟨both, -⟩ := (algorithms_append scriptsOfOneName plainSettings singleModule true
    [scriptDirectory] [scriptDirectory.child "a.rec"]).2.1 _ _ first second
  rw [both]
  rfl

end Loading

end Recommender
