import Recommender.Path
import Recommender.Text.Alphanumeric

/-!
Component references: the dotted names under which the host knows its components. A segment of a
name begins with an ASCII letter, an underscore or a dollar sign and goes on with letters and
numerals of any script, underscores and dollar signs.
-/
namespace Recommender

namespace CodePoint

/-- Whether a segment of a component name may begin with a code point. -/
def beginsName (c : CodePoint) : Bool :=
  c.beginsIdentifier || c = dollar

/-- Whether a segment of a component name may go on with a code point. -/
def continuesName (c : CodePoint) : Bool :=
  c.isAlphanumeric || c = underscore || c = dollar

end CodePoint

namespace Text

/-- Whether a text is a segment of a component name. -/
def isNameSegment : Text → Bool
  | [] => false
  | c :: rest => c.beginsName && rest.all CodePoint.continuesName

/-- Whether a text is a component name. -/
def isComponentName (t : Text) : Bool :=
  (splitOn CodePoint.dot t).all isNameSegment

end Text

/-- A reference to a component by name. -/
structure Reference where
  name : Text
  valid : name.isComponentName = true
deriving DecidableEq

namespace Reference

/-- The reference that a text names, if it is a component name. -/
def ofText? (t : Text) : Option Reference :=
  if valid : t.isComponentName = true then some ⟨t, valid⟩ else none

/-- The last segment of a name. -/
def shortName (r : Reference) : Text :=
  ((Text.splitOn CodePoint.dot r.name).getLast?).getD []

/-- The segments of a name before the last one. -/
def package (r : Reference) : Text :=
  Text.join "." (Text.splitOn CodePoint.dot r.name).dropLast

end Reference

end Recommender
