import Recommender.Number.Power

/-!
Binary floating point numbers of 64 bits, as exact values. A finite number is a whole number of
units, one unit being the least positive number, so comparisons are comparisons of integers.
Rounding takes the nearest number, and of two equally near the one with an even mantissa.
-/
namespace Recommender

/-- The number of binary places of a unit. -/
def unitPlaces : Nat := 1074

/-- Whether a mantissa and a scale are the ones that a number is stored with. -/
def isStored (mantissa scale : Nat) : Bool :=
  decide (mantissa < 2 ^ 53) && decide (scale ≤ 2045)
    && (decide (scale = 0) || decide (2 ^ 52 ≤ mantissa))

/-- A finite number: `mantissa * 2 ^ scale` units, with a sign. -/
structure FiniteDouble where
  negative : Bool
  mantissa : Nat
  scale : Nat
  stored : isStored mantissa scale = true
deriving DecidableEq

/-- A floating point number. -/
inductive Double where
  | nan
  | infinite (negative : Bool)
  | finite (x : FiniteDouble)
deriving DecidableEq

/-- A quotient rounded to the nearest natural number, a half to the even neighbour. -/
def roundQuotient (numerator denominator : Nat) : Nat :=
  let quotient := numerator / denominator
  let twice := 2 * (numerator % denominator)
  if twice < denominator then quotient
  else if denominator < twice then quotient + 1
  else quotient + quotient % 2

namespace FiniteDouble

/-- The size of a number in units. -/
def units (x : FiniteDouble) : Nat :=
  x.mantissa * 2 ^ x.scale

/-- A number in units. -/
def signedUnits (x : FiniteDouble) : Int :=
  if x.negative then -(x.units : Int) else x.units

/-- Positive zero. -/
def zero : FiniteDouble :=
  ⟨false, 0, 0, rfl⟩

/-- The number one. -/
def one : FiniteDouble :=
  ⟨false, 2 ^ 52, 1022, rfl⟩

/-- The integer that a number is equal to, if there is one. -/
def toInt? (x : FiniteDouble) : Option Int :=
  if x.units % 2 ^ unitPlaces = 0 then
    let size : Int := (x.units / 2 ^ unitPlaces : Nat)
    some (if x.negative then -size else size)
  else none

end FiniteDouble

namespace Double

/-- The number with a sign, a mantissa and a scale; a mantissa that rounding has carried to the
next power of two is halved, and what is too large becomes infinite. -/
def ofParts (negative : Bool) (mantissa scale : Nat) : Double :=
  let carried := mantissa = 2 ^ 53
  let mantissa := if carried then 2 ^ 52 else mantissa
  let scale := if carried then scale + 1 else scale
  if stored : isStored mantissa scale = true then .finite ⟨negative, mantissa, scale, stored⟩
  else .infinite negative

/-- The number nearest to a quotient. -/
def ofRatio (negative : Bool) (numerator denominator : Nat) : Double :=
  let scaled := numerator * 2 ^ unitPlaces
  let scale := Nat.log2 (scaled / denominator) - 52
  ofParts negative (roundQuotient scaled (denominator * 2 ^ scale)) scale

/-- The number nearest to an integer. -/
def ofInt (n : Int) : Double :=
  ofRatio (decide (n < 0)) n.natAbs 1

/-- The number nearest to `digits * 10 ^ exponent`. Exponents that put every digit far above the
greatest or far below the least number are settled first. -/
def ofDecimal (negative : Bool) (digits : Nat) (exponent : Int) : Double :=
  if digits = 0 then .finite { FiniteDouble.zero with negative }
  else if 400 < exponent then .infinite negative
  else if exponent + (Nat.log2 digits : Int) < -400 then
    .finite { FiniteDouble.zero with negative }
  else if 0 ≤ exponent then ofRatio negative (digits * 10 ^ exponent.toNat) 1
  else ofRatio negative digits (10 ^ (-exponent).toNat)

/-- Order of floating point numbers; nothing is less than, or greater than, what is no number. -/
def less : Double → Double → Bool
  | .nan, _ => false
  | _, .nan => false
  | .infinite true, y => y != .infinite true
  | .infinite false, _ => false
  | .finite _, .infinite negative => !negative
  | .finite x, .finite y => decide (x.signedUnits < y.signedUnits)

/-- Order between an integer and a floating point number, by their exact values. -/
def intLess (n : Int) : Double → Bool
  | .nan => false
  | .infinite negative => !negative
  | .finite x => decide (n * 2 ^ unitPlaces < x.signedUnits)

end Double

/-- Whether an integer and a finite number are equal. -/
def FiniteDouble.equalsInt (x : FiniteDouble) (n : Int) : Bool :=
  decide (x.signedUnits = n * 2 ^ unitPlaces)

/-- Whether two finite numbers are equal; the two zeros are. -/
def FiniteDouble.equals (x y : FiniteDouble) : Bool :=
  decide (x.signedUnits = y.signedUnits)

end Recommender
