import Recommender.Text.Basic

/-!
Property paths: one or more identifiers joined by dots. Identifiers are ASCII letters, digits and
underscores and do not begin with a digit.
-/
namespace Recommender

namespace CodePoint

/-- Whether a code point is an ASCII letter. -/
def isAsciiLetter (c : CodePoint) : Bool :=
  (0x41 ≤ c.val && c.val ≤ 0x5A) || (0x61 ≤ c.val && c.val ≤ 0x7A)

/-- Whether an identifier may begin with a code point. -/
def beginsIdentifier (c : CodePoint) : Bool :=
  c.isAsciiLetter || c = underscore

/-- Whether an identifier may go on with a code point. -/
def continuesIdentifier (c : CodePoint) : Bool :=
  c.beginsIdentifier || c.asciiDigit?.isSome

end CodePoint

namespace Text

/-- Whether a text is an identifier. -/
def isIdentifier : Text → Bool
  | [] => false
  | c :: rest => c.beginsIdentifier && rest.all CodePoint.continuesIdentifier

/-- Whether a text is one or more identifiers joined by dots. -/
def isPath (t : Text) : Bool :=
  (splitOn CodePoint.dot t).all isIdentifier

end Text

/-- A property path. -/
structure Path where
  text : Text
  valid : text.isPath = true
deriving DecidableEq

namespace Path

/-- The path that a text is, if it is one. -/
def ofText? (t : Text) : Option Path :=
  if valid : t.isPath = true then some ⟨t, valid⟩ else none

/-- Parts joined by dots, empty ones left out. -/
def joinParts (parts : List Text) : Text :=
  Text.join "." (parts.filter (· ≠ []))

/-- The path of the algorithm's name. -/
def name : Path := ⟨"name", by decide⟩

/-- The path of the recommender module. -/
def module : Path := ⟨"module", by decide⟩

/-- The path above free attributes. -/
def attributes : Path := ⟨"attributes", by decide⟩

/-- The text of a path that lies below another one, seen from there. -/
def below? (above p : Path) : Option Text :=
  Text.dropLead? (above.text ++ ".") p.text

end Path

end Recommender
