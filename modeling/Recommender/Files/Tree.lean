import Recommender.Files.Fault
import Recommender.Files.Path
import Recommender.Table

/-!
A file tree as far as it is known: the files with their bytes and the directories that hold no file.
A directory that holds something need not be listed.
-/
namespace Recommender

/-- What stands at a place of a file tree. -/
inductive FileNode where
  | file (bytes : List UInt8)
  | directory

/-- A file tree: what stands at each place. -/
structure FileTree where
  nodes : Table FilePath FileNode

namespace FileTree

/-- Whether a place lies somewhere below another one. -/
def isBelow (above place : FilePath) : Bool :=
  place.anchor = above.anchor && above.parts.isPrefixOf place.parts
    && above.parts.length < place.parts.length

/-- Whether a place is a starting point or above one. -/
def isTop (place : FilePath) : Bool :=
  place.parts.all (· = FilePath.upward)

/-- What stands at a place without detours. -/
def nodeAt? (tree : FileTree) (place : FilePath) : Option FileNode :=
  (tree.nodes.find? place).or
    (if isTop place || tree.nodes.keys.any (isBelow place) then some .directory else none)

/-- The place that one more part of a path leads to. -/
def step (here : FilePath) (part : Text) : FilePath :=
  if part = FilePath.upward then
    if isTop here && here.anchor = .working then here.child part
    else { here with parts := here.parts.dropLast }
  else here.child part

/-- The greatest number of bytes of a part of a path. -/
def maxPartBytes : Nat := 255

/-- The greatest number of bytes of a path. -/
def maxPathBytes : Nat := 4095

/-- Whether a part of a path is too long to be asked for. -/
def isTooLong (part : Text) : Bool :=
  maxPartBytes < (part.flatMap FilePath.nameBytes).length

/-- Whether a path is too long to be asked for. -/
def isLongPath (path : FilePath) : Bool :=
  maxPathBytes < (path.text.flatMap FilePath.nameBytes).length

/-- Follows the parts of a path from a place on; each part but the last leads to a directory. -/
def follow (tree : FileTree) (here : FilePath) : List Text → Except FileCause (FilePath × FileNode)
  | [] =>
    match tree.nodeAt? here with
    | some node => .ok (here, node)
    | none => .error .notFound
  | part :: rest =>
    match tree.nodeAt? here with
    | none => .error .notFound
    | some (.file _) => .error .notDirectory
    | some .directory =>
      if isTooLong part then .error .nameTooLong else tree.follow (step here part) rest

/-- The place and the node that a path leads to. -/
def find (tree : FileTree) (path : FilePath) : Except FileFault (FilePath × FileNode) :=
  if path.parts.any (·.contains CodePoint.null) then .error ⟨.nullCharacter, path.text⟩
  else if isLongPath path then .error ⟨.nameTooLong, path.text⟩
  else
    (tree.follow { path with parts := [] } path.parts).mapError fun cause => ⟨cause, path.text⟩

/-- What a path leads to, if it leads anywhere. A name that is too long cannot even be asked for. -/
def find? (tree : FileTree) (path : FilePath) : Except FileFault (Option FileNode) :=
  match tree.find path with
  | .ok (_, node) => .ok (some node)
  | .error fault => if fault.cause = .nameTooLong then .error fault else .ok none

/-- Whether a path leads to a directory. -/
def isDirectory (tree : FileTree) (path : FilePath) : Except FileFault Bool :=
  (tree.find? path).map fun
    | some .directory => true
    | _ => false

/-- Whether a path leads anywhere. -/
def existsAt (tree : FileTree) (path : FilePath) : Except FileFault Bool :=
  (tree.find? path).map Option.isSome

/-- The bytes of a file. -/
def read (tree : FileTree) (path : FilePath) : Except FileFault (List UInt8) :=
  match tree.find path with
  | .ok (_, .file bytes) => .ok bytes
  | .ok (_, .directory) => .error ⟨.isDirectory, path.text⟩
  | .error fault => .error fault

/-- The name under which a directory shows a place below it. -/
def shownName? (directory place : FilePath) : Option Text :=
  if isBelow directory place then
    place.parts[directory.parts.length]?.filter (· ≠ FilePath.upward)
  else none

/-- The first name in the directory at a place that a path to the directory makes too long to be
asked for. -/
def longName? (tree : FileTree) (path place : FilePath) : Option Text :=
  ((tree.nodes.keys.filterMap (shownName? place)).mergeSort Text.before).find? fun name =>
    isLongPath (path.child name)

/-- The name of an entry that is a file right in a directory. -/
def fileName? (directory : FilePath) (entry : FilePath × FileNode) : Option Text :=
  match entry.2 with
  | .file _ => if entry.1 = directory.child entry.1.name then some entry.1.name else none
  | .directory => none

/-- The files in a directory, sorted by name. Everything in the directory is asked for whether it is
a file. -/
def files (tree : FileTree) (path : FilePath) : Except FileFault (List FilePath) :=
  match tree.find path with
  | .ok (place, .directory) =>
    match tree.longName? path place with
    | some name => .error ⟨.nameTooLong, (path.child name).text⟩
    | none =>
      .ok (((tree.nodes.entries.filterMap (fileName? place)).mergeSort Text.before).map path.child)
  | .ok (_, .file _) => .error ⟨.notDirectory, path.text⟩
  | .error fault => .error fault

end FileTree

end Recommender
