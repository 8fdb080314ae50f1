import Recommender.Algorithm.Basic
import Recommender.Document
import Recommender.Files.Access
import Recommender.Files.Bundled
import Recommender.Script.Reading
import Recommender.Settings
import Recommender.Text.Lines

/-!
Loading configurations from files. The extension of a file decides how it is read; directories are
searched for the files with a known extension.
-/
namespace Recommender.Loading

/-- A problem with a file. -/
def unusable (path : FilePath) (reason : Unusable) : Failure :=
  .problem (.unusable (some path.text) reason)

/-- The failure of a file that cannot be read. -/
def unreadable (path : FilePath) (fault : FileFault) : Failure :=
  (fault.unforeseen? path).getD (unusable path (.unreadable fault))

/-- The text of a file, with the line ends of every system made equal. -/
def readText (tree : FileTree) (path : FilePath) : Except Failure Text :=
  match tree.read path with
  | .error fault => .error (unreadable path fault)
  | .ok bytes =>
    match Utf8.decode bytes with
    | .ok t => .ok t.unifyNewlines
    | .error fault => .error (.undecodable fault)

/-- The record that a configuration file describes. -/
def record (tree : FileTree) (settings : Settings) (path : FilePath) : Except Failure Record :=
  if path.extension ∉ Settings.extensions then
    .error (unusable path (.noReader path.extension))
  else do
    let t ← readText tree path
    if path.extension ∈ Settings.documentExtensions then Document.toRecord (some path.text) t
    else Script.toRecord (some path.text) settings.rootName t

/-- The algorithm that a configuration file describes, named after the file unless the file names
it. -/
def algorithm (tree : FileTree) (settings : Settings) (registry : Registry) (strict : Bool)
    (path : FilePath)
    : Logged Algorithm := do
  let r ← Logged.lift (record tree settings path)
  Algorithm.ofRecord registry strict (some path.stem) (some path.text) r

/-- The configuration files in a directory, sorted by name. -/
def configurations (tree : FileTree) (directory : FilePath) : Except Failure (List FilePath) :=
  match tree.files directory with
  | .ok files => .ok (files.filter (·.extension ∈ Settings.extensions))
  | .error fault => .error ((fault.unforeseen? directory).getD (.file fault))

/-- The bundled scripts. -/
def bundledScripts (tree : FileTree) : Except Failure (List FilePath) :=
  configurations tree FilePath.bundledDirectory

/-- Whether a path leads anywhere. -/
def pathExists (tree : FileTree) (path : FilePath) : Except Failure Bool :=
  (tree.existsAt path).mapError .file

/-- Whether a path leads to a directory. -/
def isDirectory (tree : FileTree) (path : FilePath) : Except Failure Bool :=
  (tree.isDirectory path).mapError .file

/-- The configuration files that paths stand for: a file for itself, a directory for those in it. -/
def filesOf (tree : FileTree) : List FilePath → Except Failure (List FilePath)
  | [] => .ok []
  | path :: rest => do
    if !(← pathExists tree path) then throw (unusable path .absent)
    let first ← if ← isDirectory tree path then configurations tree path else pure [path]
    let others ← filesOf tree rest
    return first ++ others

/-- Loads one file after the other into a table of algorithms by name; of several with one name the
last one stays. -/
def loadFiles (tree : FileTree) (settings : Settings) (registry : Registry) (strict : Bool)
    (loaded : Table Text Algorithm)
    : List FilePath → Logged (Table Text Algorithm)
  | [] => pure loaded
  | file :: rest => do
    let a ← algorithm tree settings registry strict file
    match loaded.find? a.name with
    | none => pure ()
    | some earlier =>
      Logged.tell [.replaced a.name file.text (earlier.source.getD [])]
    loadFiles tree settings registry strict (loaded.put a.name a) rest

/-- The algorithms of several paths by name, in the order of loading. -/
def algorithms (tree : FileTree) (settings : Settings) (registry : Registry) (strict : Bool)
    (paths : List FilePath)
    : Logged (Table Text Algorithm) := do
  let files ← Logged.lift (filesOf tree paths)
  loadFiles tree settings registry strict ∅ files

/-- Whether a file has a base name, upper and lower case aside. -/
def isNamed (name : Text) (file : FilePath) : Bool :=
  Text.lower file.stem = Text.lower name

/-- The first file with a base name in one of several directories; those that do not exist are
passed over. -/
def findIn (tree : FileTree) (name : Text) : List FilePath → Except Failure (Option FilePath)
  | [] => .ok none
  | directory :: rest => do
    if ← pathExists tree directory then
      match (← configurations tree directory).find? (isNamed name) with
      | some file => return some file
      | none => findIn tree name rest
    else findIn tree name rest

/-- The configuration file with a base name in the search directories. -/
def find (tree : FileTree) (settings : Settings) (name : Text) : Except Failure FilePath := do
  match ← findIn tree name settings.searchDirectories with
  | some file => return file
  | none => throw (.problem (.unusable (some name) .unknownName))

end Recommender.Loading
