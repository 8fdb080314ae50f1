import Recommender.Number.Double
import Recommender.Text.Digit

/-!
Decimal text of floating point numbers. The digits of a number are the fewest that read back as the
number, and of two such rows of digits the nearer one; where they go is the choice of a layout.
-/
namespace Recommender

/-- A natural number of tenths, hundredths and so on: `digits * 10 ^ exponent`. -/
structure Decimal where
  digits : Nat
  exponent : Int
deriving DecidableEq

namespace Decimal

/-- Drops a trailing zero digit as often as `fuel` allows. -/
def dropZeros : Nat → Decimal → Decimal
  | 0, d => d
  | fuel + 1, d =>
    if d.digits != 0 && d.digits % 10 == 0 then
      dropZeros fuel ⟨d.digits / 10, d.exponent + 1⟩
    else d

/-- The same number without trailing zero digits. -/
def reduced (d : Decimal) : Decimal :=
  dropZeros (Nat.log2 d.digits) d

end Decimal

namespace FiniteDouble

/-- The size of a number as a decimal, exactly. -/
def exact (x : FiniteDouble) : Decimal :=
  ⟨x.units * 5 ^ unitPlaces, -unitPlaces⟩

/-- The two decimals with `count` digits next to the size of a number, the nearer one first; at
equal distance the even one. -/
def neighbours (x : FiniteDouble) (count : Nat) : List Decimal :=
  let whole := x.exact.digits
  let dropped := (Nat.toDigits 10 whole).length - count
  let exponent := x.exact.exponent + dropped
  let below := whole / 10 ^ dropped
  let nearest := roundQuotient whole (10 ^ dropped)
  let other := if nearest = below then below + 1 else below
  [⟨nearest, exponent⟩, ⟨other, exponent⟩]

/-- Whether a decimal reads as the size of a number. -/
def isReadFrom (x : FiniteDouble) (d : Decimal) : Bool :=
  Double.ofDecimal x.negative d.digits d.exponent == .finite x

/-- The decimal with the fewest digits that reads as the size of a number. -/
def shortest (x : FiniteDouble) : Decimal :=
  if x.mantissa = 0 then ⟨0, 0⟩
  else
    match ((List.range 17).flatMap fun n => x.neighbours (n + 1)).find? x.isReadFrom with
    | some d => d
    | none => x.exact

/-- The decimal nearest to the size of a number among those with `count` digits. -/
def rounded (x : FiniteDouble) (count : Nat) : Decimal :=
  let whole := x.exact.digits
  let dropped := (Nat.toDigits 10 whole).length - count
  if x.mantissa = 0 then ⟨0, 0⟩
  else ⟨roundQuotient whole (10 ^ dropped), x.exact.exponent + dropped⟩

end FiniteDouble

/-- Where the digits of a number go: numbers below `10 ^ positionalBelow` and from a ten-thousandth
on are written without an exponent, whole ones with `wholeEnding` behind them. -/
structure DecimalLayout where
  positionalBelow : Int
  wholeEnding : Text

namespace DecimalLayout

/-- The layout of values: positional below `10 ^ 16`, with a point in every number. -/
def value : DecimalLayout :=
  ⟨16, ".0"⟩

/-- The layout of bounds in messages: positional below a million, whole numbers without a point. -/
def bound : DecimalLayout :=
  ⟨6, ""⟩

/-- The exponent of a number in exponential notation, with a sign and at least two digits. -/
def exponentText (exponent : Int) : Text :=
  let digits := Text.ofNat exponent.natAbs
  "e" ++ (if exponent < 0 then "-" else "+")
    ++ List.replicate (2 - digits.length) (CodePoint.ofDigit 0) ++ digits

/-- A decimal in a layout. -/
def text (layout : DecimalLayout) (d : Decimal) : Text :=
  let reduced := d.reduced
  let digits := Text.ofNat reduced.digits
  let whole := (digits.length : Int) + reduced.exponent
  let zeros (n : Int) : Text := List.replicate n.toNat (CodePoint.ofDigit 0)
  if d.digits = 0 then "0" ++ layout.wholeEnding
  else if whole ≤ -4 || layout.positionalBelow < whole then
    match digits with
    | [] => []
    | [digit] => [digit] ++ exponentText (whole - 1)
    | first :: rest => [first] ++ "." ++ rest ++ exponentText (whole - 1)
  else if whole ≤ 0 then "0." ++ zeros (-whole) ++ digits
  else if whole < digits.length then
    digits.take whole.toNat ++ "." ++ digits.drop whole.toNat
  else digits ++ zeros (whole - digits.length) ++ layout.wholeEnding

end DecimalLayout

/-- The sign of a number in text. -/
def signText (negative : Bool) : Text :=
  if negative then "-" else ""

/-- The text of a finite number: its shortest decimal in the layout of values. -/
def FiniteDouble.text (x : FiniteDouble) : Text :=
  signText x.negative ++ DecimalLayout.value.text x.shortest

namespace Double

/-- The text of a number. -/
def text : Double → Text
  | .nan => "nan"
  | .infinite negative => signText negative ++ "inf"
  | .finite x => x.text

/-- The text of a bound in a message: six digits at most. -/
def boundText : Double → Text
  | .finite x => signText x.negative ++ DecimalLayout.bound.text (x.rounded 6)
  | x => x.text

end Double

end Recommender
