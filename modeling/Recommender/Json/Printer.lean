import Recommender.Value

/-!
Writing data as JSON texts: indented and in ASCII for readers, or compact for messages between
programs.
-/
namespace Recommender

/-- A code point inside a JSON string that keeps what ASCII does not have. -/
def CodePoint.escapedControl (c : CodePoint) : Text :=
  if c.val < 0x7F then c.escaped else [c]

namespace Json

/-- The layout of a JSON text. -/
structure Layout where
  ascii : Bool
  indented : Bool

/-- Indented by two blanks a level, in ASCII. -/
def Layout.indentedAscii : Layout :=
  ⟨true, true⟩

/-- Without any blanks, with all code points kept. -/
def Layout.compact : Layout :=
  ⟨false, false⟩

namespace Layout

/-- A text as a JSON string. -/
def string (layout : Layout) (t : Text) : Text :=
  if layout.ascii then Text.literal t
  else
    [CodePoint.doubleQuote] ++ t.flatMap CodePoint.escapedControl ++ [CodePoint.doubleQuote]

/-- What stands before an item at a depth. -/
def lead (layout : Layout) (depth : Nat) : Text :=
  if layout.indented then CodePoint.lineFeed :: List.replicate (2 * depth) CodePoint.space else []

/-- What stands between a name and its value. -/
def colon (layout : Layout) : Text :=
  if layout.indented then ": " else ":"

/-- Items at a depth between brackets; brackets without items stand side by side. -/
def enclose (layout : Layout) (depth : Nat) (opening closing : Text) (items : List Text) : Text :=
  if items.isEmpty then opening ++ closing
  else
    opening ++ Text.join "," (items.map (layout.lead (depth + 1) ++ ·)) ++ layout.lead depth
      ++ closing

end Layout

/-- A floating point number; what is no finite number is written as a word. -/
def double : Double → Text
  | .nan => "NaN"
  | .infinite negative => if negative then "-Infinity" else "Infinity"
  | x => x.text

mutual

/-- A datum at a depth. -/
def write (layout : Layout) (depth : Nat) : Datum → Text
  | .missing => "null"
  | .bool b => if b then "true" else "false"
  | .int n => Text.ofInt n
  | .float x => double x
  | .text t => layout.string t
  | .reference r => layout.string r.name
  | .list items => layout.enclose depth "[" "]" (writeItems layout (depth + 1) items)
  | .map entries => layout.enclose depth "\x7b" "\x7d" (writeEntries layout (depth + 1) entries)

/-- The items of a list at a depth. -/
def writeItems (layout : Layout) (depth : Nat) : List Datum → List Text
  | [] => []
  | item :: rest => write layout depth item :: writeItems layout depth rest

/-- The entries of a map at a depth. -/
def writeEntries (layout : Layout) (depth : Nat) : List (Text × Datum) → List Text
  | [] => []
  | (name, item) :: rest =>
    (layout.string name ++ layout.colon ++ write layout depth item)
      :: writeEntries layout depth rest

end

/-- A datum as an indented JSON text. -/
def pretty (d : Datum) : Text :=
  write .indentedAscii 0 d

/-- A datum as a compact JSON text. -/
def compact (d : Datum) : Text :=
  write .compact 0 d

end Json

end Recommender
