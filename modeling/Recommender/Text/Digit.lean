import Recommender.Text.Basic

/-!
Decimal digits of every script, as Unicode 14 lists them, and the number a run of digits denotes.
Each script has its ten digits at consecutive code points.
-/
namespace Recommender

namespace CodePoint

/-- The code points of the digit zero, one for each script. -/
def zeroDigits : List Nat :=
  [0x30, 0x660, 0x6F0, 0x7C0, 0x966, 0x9E6, 0xA66, 0xAE6, 0xB66, 0xBE6, 0xC66, 0xCE6, 0xD66, 0xDE6,
    0xE50, 0xED0, 0xF20, 0x1040, 0x1090, 0x17E0, 0x1810, 0x1946, 0x19D0, 0x1A80, 0x1A90, 0x1B50,
    0x1BB0, 0x1C40, 0x1C50, 0xA620, 0xA8D0, 0xA900, 0xA9D0, 0xA9F0, 0xAA50, 0xABF0, 0xFF10, 0x104A0,
    0x10D30, 0x11066, 0x110F0, 0x11136, 0x111D0, 0x112F0, 0x11450, 0x114D0, 0x11650, 0x116C0,
    0x11730, 0x118E0, 0x11950, 0x11C50, 0x11D50, 0x11DA0, 0x16A60, 0x16AC0, 0x16B50, 0x1D7CE,
    0x1D7D8, 0x1D7E2, 0x1D7EC, 0x1D7F6, 0x1E140, 0x1E2F0, 0x1E950, 0x1FBF0]

/-- The value of a decimal digit of any script. -/
def digit? (c : CodePoint) : Option Nat :=
  (zeroDigits.find? fun first => first ≤ c.val && c.val < first + 10).map (c.val - ·)

/-- Whether a code point is a decimal digit of any script. -/
def isDigit (c : CodePoint) : Bool :=
  (digit? c).isSome

end CodePoint

namespace Text

/-- The number whose decimal digits are given, the most significant first. -/
def ofDecimalDigits (digits : List Nat) : Nat :=
  digits.foldl (fun value digit => 10 * value + digit) 0

/-- The number that the decimal digits of a text denote; other code points are passed over. -/
def decimalValue (t : Text) : Nat :=
  ofDecimalDigits (t.filterMap CodePoint.digit?)

/-- The number that a text of ASCII hexadecimal digits denotes, if it is one of the given length. -/
def hexValue? (length : Nat) (t : Text) : Option Nat :=
  if t.length = length then
    (t.mapM CodePoint.hexDigit?).map (·.foldl (fun value digit => 16 * value + digit) 0)
  else none

/-- A natural number in decimal. -/
def ofNat (n : Nat) : Text :=
  (Nat.toDigits 10 n).map CodePoint.ofChar

/-- An integer in decimal, with a minus sign if it is negative. -/
def ofInt : Int → Text
  | .ofNat n => ofNat n
  | .negSucc n => CodePoint.minus :: ofNat (n + 1)

/-- A number in lower-case hexadecimal, with zeros in front up to the given width. -/
def ofHex (width n : Nat) : Text :=
  let digits := (Nat.toDigits 16 n).map CodePoint.ofChar
  List.replicate (width - digits.length) (CodePoint.ofDigit 0) ++ digits

end Text

end Recommender
