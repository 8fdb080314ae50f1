import Recommender.Component.Catalog
import Recommender.Component.Response
import Recommender.Files.Loading
import Recommender.Script.Printer

/-!
The configuration service: it lists the algorithms of the search directories, finds one of them by
name and configures algorithms from scripts that it is sent. Of several files with one algorithm
name, upper and lower case aside, the first is listed.
-/
namespace Recommender

/-- A configuration service. The search directories are read when they are first asked for, and the
algorithms found then are kept by name in lower case. -/
structure Service where
  settings : Settings
  registry : Registry
  found : Option (Table Text Algorithm)

namespace Service

/-- The source of a script that the service is sent. -/
def requestSource : Text := "<request>"

/-- A new service. -/
def start (tree : FileTree) (environment : Environment) (processors : Option Nat)
    (choices : Choices)
    : Logged Service := do
  let settings ← Settings.resolve tree environment choices
  let registry ← Logged.lift (Registry.ofHost tree processors settings.catalog)
  return ⟨settings, registry, none⟩

/-- The components of a kind given by its word, or all components. -/
def components (s : Service) (kind : Option Text) : Except Failure (List Component) :=
  match Settings.nonEmpty? kind with
  | some word => s.registry.byKindWord (.text word)
  | none => .ok s.registry.toList

/-- Takes up the algorithm of a file. A file with a problem and one whose name is taken are skipped
with a notice. -/
def takeUp (s : Service) (tree : FileTree) (known : Table Text Algorithm) (file : FilePath)
    : Logged (Table Text Algorithm) :=
  let attempt := Loading.algorithm tree s.settings s.registry s.settings.strict file
  match attempt.outcome with
  | .error (.problem p) => ⟨attempt.notices ++ [.skipped file.text p], .ok known⟩
  | .error failure => ⟨attempt.notices, .error failure⟩
  | .ok a =>
    match known.find? (Text.lower a.name) with
    | some holder =>
      ⟨attempt.notices ++ [.shadowed file.text a.name (holder.source.getD [])], .ok known⟩
    | none => ⟨attempt.notices, .ok (known.put (Text.lower a.name) a)⟩

/-- Takes up the algorithms of a directory; what is no directory is passed over. -/
def takeUpDirectory (s : Service) (tree : FileTree) (known : Table Text Algorithm)
    (directory : FilePath)
    : Logged (Table Text Algorithm) := do
  if ← Logged.lift (Loading.isDirectory tree directory) then
    let files ← Logged.lift (Loading.configurations tree directory)
    files.foldlM (s.takeUp tree) known
  else return known

/-- The service after the search directories have been read, with the algorithms in them. -/
def search (s : Service) (tree : FileTree) : Logged (Service × Table Text Algorithm) :=
  match s.found with
  | some found => pure (s, found)
  | none => do
    let found ← s.settings.searchDirectories.foldlM (s.takeUpDirectory tree) ∅
    return ({ s with found := some found }, found)

/-- The algorithms of the search directories. -/
def list (s : Service) (tree : FileTree) : Logged (Service × List Algorithm) := do
  let (s, found) ← s.search tree
  return (s, found.values)

/-- The algorithm of a name in the search directories, upper and lower case aside. -/
def find (s : Service) (tree : FileTree) (name : Text) : Logged (Service × Option Algorithm) := do
  let (s, found) ← s.search tree
  return (s, found.find? (Text.lower name))

/-- The algorithm that a script configures. -/
def configure (s : Service) (script : Text) (name : Option Text) (strict : Bool)
    : Logged Algorithm := do
  let r ← Logged.lift (Script.toRecord (some requestSource) s.settings.rootName script)
  Algorithm.ofRecord s.registry strict name (some requestSource) r

/-- An algorithm as plain data: its summary and its script in the normal form. -/
def response (s : Service) (a : Algorithm) : Except Failure Datum := do
  let summary ← a.summary
  let script : Datum := .text (Script.render a.record s.settings.rootName [])
  return .map (summary ++ [(("script" : Text), script)])

end Service

end Recommender
