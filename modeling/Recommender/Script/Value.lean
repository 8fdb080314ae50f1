import Recommender.Script.Fault
import Recommender.Script.Literal
import Recommender.Script.Number
import Recommender.Text.Blank
import Recommender.Value

/-!
Values in a script: string literals, truth values, integers, other numbers and component names, in
this order of precedence.
-/
namespace Recommender

/-- Why a text is no value: it is none of the forms, or an integer with too many digits. -/
inductive ValueFault where
  | script (fault : ScriptFault) (text : Text)
  | tooManyDigits (count : Nat)
deriving DecidableEq

namespace Script

/-- The value that a trimmed text is. -/
def trimmedValue (t : Text) : Except ValueFault Value :=
  if t.isEmpty then .error (.script .noValue t)
  else if let some body := literalBodyOf? t then
    match denoted? body with
    | some denoted => .ok (.text denoted)
    | none => .error (.script .invalidLiteral t)
  else if t = "true" then .ok (.bool true)
  else if t = "false" then .ok (.bool false)
  else if let some number := number? t then
    if number.isInt then
      if number.whole.length ≤ maxIntegerDigits then .ok (.int number.toInt)
      else .error (.tooManyDigits number.whole.length)
    else
      match number.toDouble with
      | .finite x => .ok (.float x)
      | _ => .error (.script .outOfRange t)
  else if let some reference := Reference.ofText? t then .ok (.reference reference)
  else .error (.script .invalidValue t)

/-- The value that a text is, blanks around it aside. -/
def value (t : Text) : Except ValueFault Value :=
  trimmedValue t.trim

end Script

namespace Value

/-- A value as a script has it. -/
def scriptText : Value → Text
  | .reference r => r.name
  | .bool b => if b then "true" else "false"
  | .int n => Text.ofInt n
  | .float x => x.text
  | .text t => Text.literal t

end Value

/-- A datum as a script has it; what is missing, a list or a map has no such form. -/
def Datum.scriptText? : Datum → Option Text
  | .reference r => some (Value.reference r).scriptText
  | .bool b => some (Value.bool b).scriptText
  | .int n => some (Value.int n).scriptText
  | .float x => some x.text
  | .text t => some (Value.text t).scriptText
  | .missing => none
  | .list _ => none
  | .map _ => none

end Recommender
