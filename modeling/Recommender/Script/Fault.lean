import Recommender.Text.Quoted

/-!
What can be wrong with a configuration script, and where.
-/
namespace Recommender

/-- What is wrong with a statement or a comment of a script. -/
inductive ScriptFault where
  | openComment
  | noAssignment
  | wrongRoot (lead : Text)
  | invalidPath (path : Text)
  | noValue
  | invalidLiteral
  | outOfRange
  | invalidValue
deriving DecidableEq

/-- The wording of a fault. -/
def ScriptFault.message : ScriptFault → Text
  | .openComment => "Unterminated block comment"
  | .noAssignment => "Expected an assignment"
  | .wrongRoot lead => "Assignment target must start with " ++ Text.shown lead
  | .invalidPath path => "Invalid property path: " ++ Text.shown path
  | .noValue => "Missing value"
  | .invalidLiteral => "Invalid string literal"
  | .outOfRange => "Number out of range"
  | .invalidValue => "Invalid value"

end Recommender
