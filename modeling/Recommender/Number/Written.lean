import Recommender.Number.Double
import Recommender.Text.Digit

/-!
Numbers as they are written, with the integer and the floating point number that they denote.
-/
namespace Recommender

/-- The greatest number of digits that an integer may be written with. -/
def maxIntegerDigits : Nat := 4300

/-- The parts of a number as it is written; a missing part is told from an empty one. -/
structure WrittenNumber where
  negative : Bool
  whole : List Nat
  fraction : Option (List Nat)
  exponent : Option (Bool × List Nat)
deriving DecidableEq

namespace WrittenNumber

/-- Whether a number is written as an integer. -/
def isInt (n : WrittenNumber) : Bool :=
  n.fraction.isNone && n.exponent.isNone

/-- The integer that the digits before the point denote. -/
def toInt (n : WrittenNumber) : Int :=
  let size : Int := Text.ofDecimalDigits n.whole
  if n.negative then -size else size

/-- The floating point number nearest to a number. -/
def toDouble (n : WrittenNumber) : Double :=
  let fraction := n.fraction.getD []
  let exponent : Int :=
    match n.exponent with
    | none => 0
    | some (negative, digits) =>
      let size : Int := Text.ofDecimalDigits digits
      if negative then -size else size
  Double.ofDecimal n.negative (Text.ofDecimalDigits (n.whole ++ fraction))
    (exponent - fraction.length)

end WrittenNumber

end Recommender
