import Recommender.Record
import Recommender.Script.Value
import Recommender.Text.Blank
import Recommender.Text.Lines

/-!
Writing a record as a script: a comment line for each line of the header, then one assignment a
line in the order of the record.
-/
namespace Recommender.Script

/-- A line of the header as a comment. -/
def headerLine (line : Text) : Text :=
  Text.trimEnd ("// " ++ line)

/-- The line of an assignment. -/
def assignmentLine (root : Text) (assignment : Path × Value) : Text :=
  root ++ "." ++ assignment.1.text ++ " = " ++ assignment.2.scriptText

/-- A record as a script that ends with a line feed. -/
def render (r : Record) (root header : Text) : Text :=
  let lines := header.lines.map headerLine ++ r.values.entries.map (assignmentLine root)
  Text.join "\n" lines ++ "\n"

end Recommender.Script
