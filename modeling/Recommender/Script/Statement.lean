import Recommender.Script.Comments
import Recommender.Text.Blank
import Recommender.Text.Lines

/-!
Statements of a script. Each line is cut at the semicolons outside its string literals; pieces
without content are no statements.
-/
namespace Recommender.Script

/-- The literal that a place on a line lies in: its quote, and whether a backslash stands just
before. -/
structure LineLiteral where
  quote : CodePoint
  escaped : Bool
deriving DecidableEq

/-- The literal that is open after one more code point. -/
def literalAfter (c : CodePoint) : Option LineLiteral → Option LineLiteral
  | none => if isQuote c then some ⟨c, false⟩ else none
  | some ⟨quote, true⟩ => some ⟨quote, false⟩
  | some ⟨quote, false⟩ =>
    if c = CodePoint.backslash then some ⟨quote, true⟩
    else if c = quote then none
    else some ⟨quote, false⟩

/-- The pieces of a line between semicolons outside literals; there is always at least one. -/
def pieces (opened : Option LineLiteral) : Text → List Text
  | [] => [[]]
  | c :: rest =>
    if opened.isNone && c = CodePoint.semicolon then [] :: pieces none rest
    else Text.addToFirst c (pieces (literalAfter c opened) rest)

/-- The statements of a line. -/
def statements (line : Text) : List Text :=
  ((pieces none line).map Text.trim).filter (· ≠ [])

/-- The statements of a script without comments, each with the number of its line. -/
def numberedStatements (t : Text) : List (Nat × Text) :=
  (t.lines.zipIdx 1).flatMap fun (line, number) => (statements line).map (number, ·)

end Recommender.Script
