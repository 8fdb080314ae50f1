import Recommender.Text.Utf8

/-!
File paths. A path is kept as its parts: repeated slashes, a slash at the end and parts that are a
single dot mean nothing, while a double dot is a part of its own.
-/
namespace Recommender

/-- Where a file path starts. The bundled scripts have a place of their own. -/
inductive Anchor where
  | working
  | root
  | doubleRoot
  | bundled
deriving DecidableEq

/-- A file path. -/
structure FilePath where
  anchor : Anchor
  parts : List Text
deriving DecidableEq

namespace FilePath

/-- The part that stands for the directory above. -/
def upward : Text := ".."

/-- The parts of a text that matter. -/
def partsOf (t : Text) : List Text :=
  (Text.splitOn CodePoint.slash t).filter fun part => part ≠ [] && part ≠ "."

/-- The path that a text writes. Two slashes at the beginning are told from one, three are not. -/
def ofText (t : Text) : FilePath :=
  match t with
  | CodePoint.slash :: CodePoint.slash :: CodePoint.slash :: _ => ⟨.root, partsOf t⟩
  | CodePoint.slash :: CodePoint.slash :: _ => ⟨.doubleRoot, partsOf t⟩
  | CodePoint.slash :: _ => ⟨.root, partsOf t⟩
  | _ => ⟨.working, partsOf t⟩

/-- The directory of the bundled scripts. -/
def bundledDirectory : FilePath :=
  ⟨.bundled, []⟩

/-- A path as text. -/
def text (p : FilePath) : Text :=
  let joined := Text.join "/" p.parts
  match p.anchor with
  | .working => if p.parts.isEmpty then "." else joined
  | .root => "/" ++ joined
  | .doubleRoot => "//" ++ joined
  | .bundled => if p.parts.isEmpty then "<bundled>" else "<bundled>/" ++ joined

/-- The last part of a path; nothing if there are no parts. -/
def name (p : FilePath) : Text :=
  p.parts.getLastD []

/-- Whether a surrogate stands for a single byte of a file name. -/
def isNameByte (c : CodePoint) : Bool :=
  0xDC80 ≤ c.val && c.val ≤ 0xDCFF

/-- The bytes of a code point in a file name. -/
def nameBytes (c : CodePoint) : List UInt8 :=
  if isNameByte c then [UInt8.ofNat c.val] else Utf8.encodeOne c

/-- The path of a file in a directory. -/
def child (p : FilePath) (name : Text) : FilePath :=
  { p with parts := p.parts ++ [name] }

/-- What follows the last dot of a text; nothing if there is no dot. -/
def afterLastDot (t : Text) : Text :=
  if t.contains CodePoint.dot then (t.reverse.takeWhile (· ≠ CodePoint.dot)).reverse else []

/-- The extension of a path: what follows the last dot of its name. -/
def extension (p : FilePath) : Text :=
  afterLastDot p.name

/-- The name of a path without an extension, if it has that one. -/
def baseName (p : FilePath) (extension : Option Text) : Text :=
  match extension with
  | none => p.name
  | some extension =>
    let ending := "." ++ extension
    if p.name.endsWith ending then p.name.take (p.name.length - ending.length) else p.name

/-- The name of a path without its own extension. -/
def stem (p : FilePath) : Text :=
  p.baseName (some p.extension)

end FilePath

end Recommender
