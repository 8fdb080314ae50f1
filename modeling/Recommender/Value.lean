import Recommender.Number.Shortest
import Recommender.Reference
import Recommender.Text.Quoted

/-!
Values. A record holds references, truth values, integers, finite numbers and texts. What comes
from outside, before it is known to be such a value, is a datum: it may also be missing, no finite
number, a list or a map.
-/
namespace Recommender

/-- A value that a record can hold. -/
inductive Value where
  | reference (r : Reference)
  | bool (b : Bool)
  | int (n : Int)
  | float (x : FiniteDouble)
  | text (t : Text)
deriving DecidableEq

/-- A value of any shape. -/
inductive Datum where
  | missing
  | bool (b : Bool)
  | int (n : Int)
  | float (x : Double)
  | text (t : Text)
  | reference (r : Reference)
  | list (items : List Datum)
  | map (entries : List (Text × Datum))

namespace Datum

instance : Inhabited Datum := ⟨.missing⟩

/-- The name of a datum's shape, as messages have it. -/
def shape : Datum → Text
  | .missing => "NoneType"
  | .bool _ => "bool"
  | .int _ => "int"
  | .float _ => "float"
  | .text _ => "str"
  | .reference _ => "ComponentReference"
  | .list _ => "list"
  | .map _ => "dict"

/-- A truth value as messages show it. -/
def shownBool (b : Bool) : Text :=
  if b then "True" else "False"

/-- A reference as messages show it. -/
def shownReference (r : Reference) : Text :=
  "ComponentReference(" ++ Text.shown r.name ++ ")"

mutual

/-- A datum as messages show it. -/
def shown : Datum → Text
  | .missing => "None"
  | .bool b => shownBool b
  | .int n => Text.ofInt n
  | .float x => x.text
  | .text t => Text.shown t
  | .reference r => shownReference r
  | .list items => "[" ++ Text.join ", " (shownItems items) ++ "]"
  | .map entries => "\x7b" ++ Text.join ", " (shownEntries entries) ++ "\x7d"

/-- The items of a list as messages show them. -/
def shownItems : List Datum → List Text
  | [] => []
  | item :: rest => shown item :: shownItems rest

/-- The entries of a map as messages show them. -/
def shownEntries : List (Text × Datum) → List Text
  | [] => []
  | (key, item) :: rest => (Text.shown key ++ ": " ++ shown item) :: shownEntries rest

end

/-- A datum with a reference given by its name. -/
def plain : Datum → Datum
  | .reference r => .text r.name
  | d => d

/-- A datum as a message includes it: a text as it is, a reference by its name. -/
def plainText : Datum → Text
  | .text t => t
  | .reference r => r.name
  | d => d.shown

/-- Whether a datum counts as given where an empty or zero one counts as missing. -/
def isGiven : Datum → Bool
  | .missing => false
  | .bool b => b
  | .int n => n != 0
  | .float (.finite x) => x.mantissa != 0
  | .float _ => true
  | .text t => !t.isEmpty
  | .reference _ => true
  | .list items => !items.isEmpty
  | .map entries => !entries.isEmpty

end Datum

namespace Value

/-- A value as a datum. -/
def toDatum : Value → Datum
  | .reference r => .reference r
  | .bool b => .bool b
  | .int n => .int n
  | .float x => .float (.finite x)
  | .text t => .text t

/-- A value as messages show it. -/
def shown (v : Value) : Text :=
  v.toDatum.shown

/-- A value with a reference given by its name. -/
def plain : Value → Value
  | .reference r => .text r.name
  | v => v

/-- The integer that a value counts as; truth values count as zero and one. -/
def toInt? : Value → Option Int
  | .bool b => some (if b then 1 else 0)
  | .int n => some n
  | _ => none

/-- Equality of values: numbers and truth values are compared as numbers, a reference equals no
text. -/
def equals : Value → Value → Bool
  | .reference r, .reference s => r = s
  | .text s, .text t => s = t
  | .float x, .float y => x.equals y
  | .float x, w => w.toInt?.any x.equalsInt
  | v, .float y => v.toInt?.any y.equalsInt
  | v, w =>
    match v.toInt?, w.toInt? with
    | some m, some n => m = n
    | _, _ => false

end Value

end Recommender
