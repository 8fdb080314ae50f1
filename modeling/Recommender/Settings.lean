import Recommender.Files.Tree
import Recommender.Notice
import Recommender.Text.Blank
import Recommender.Text.Case

/-!
Settings: how scripts are found, read and validated. What a caller leaves open is taken from the
environment.
-/
namespace Recommender

/-- The variables of the environment that settings are taken from. -/
structure Environment where
  rootName : Option Text
  strict : Option Text
  scriptDirectories : Option Text
  catalog : Option Text

/-- What a caller decides about settings. -/
structure Choices where
  rootName : Option Text
  strict : Option Bool
  scriptDirectories : Option (List Text)
  catalog : Option Text

/-- The settings in effect. -/
structure Settings where
  rootName : Text
  strict : Bool
  scriptDirectories : List FilePath
  catalog : Option Text

/-- The choices of a caller who leaves everything open. -/
def Choices.none : Choices :=
  ⟨.none, .none, .none, .none⟩

namespace Settings

/-- The extensions of scripts. -/
def scriptExtensions : List Text :=
  ["rec", "js", "groovy"]

/-- The extensions of documents. -/
def documentExtensions : List Text :=
  ["json"]

/-- The extensions of configuration files. -/
def extensions : List Text :=
  scriptExtensions ++ documentExtensions

/-- The root object of scripts unless it is named otherwise. -/
def defaultRootName : Text := "rec"

/-- Whether a variable is switched on. -/
def isOn (t : Text) : Bool :=
  let word := Text.lower t.trim
  word = "true" || word = "1" || word = "yes"

/-- A text, unless it is empty. -/
def nonEmpty? (t : Option Text) : Option Text :=
  t.filter (!·.isEmpty)

/-- The entries of a variable that lists directories, separated by colons. -/
def directoryEntries (t : Text) : List Text :=
  ((Text.splitOn CodePoint.colon t).map Text.trim).filter (!·.isEmpty)

/-- The directories among the entries of a variable; each of the others is left out with a
notice. -/
def directoriesAmong (tree : FileTree) : List Text → Logged (List FilePath)
  | [] => pure []
  | entry :: rest => do
    let path := FilePath.ofText entry
    let isDirectory ← Logged.lift ((tree.isDirectory path).mapError .file)
    Logged.tell (if isDirectory then [] else [.notDirectory entry])
    let others ← directoriesAmong tree rest
    return if isDirectory then path :: others else others

/-- The settings that choices and the environment make. -/
def resolve (tree : FileTree) (environment : Environment) (choices : Choices) : Logged Settings := do
  let directories ←
    match choices.scriptDirectories with
    | some entries => pure (entries.map FilePath.ofText)
    | none => directoriesAmong tree (directoryEntries (environment.scriptDirectories.getD []))
  return {
    rootName := ((nonEmpty? choices.rootName).or environment.rootName).getD defaultRootName
    strict := choices.strict.getD (environment.strict.elim true isOn)
    scriptDirectories := directories
    catalog := (nonEmpty? choices.catalog).or environment.catalog }

/-- The directories in which configurations are searched, the bundled scripts last. -/
def searchDirectories (s : Settings) : List FilePath :=
  s.scriptDirectories ++ [FilePath.bundledDirectory]

end Settings

end Recommender
