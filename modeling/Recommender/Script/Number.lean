import Recommender.Number.Written

/-!
Numbers in a script: a sign, digits, a point with digits, and an exponent, where digits of any
script count. Without point and exponent a number is an integer.
-/
namespace Recommender.Script

/-- The digits at the beginning of a text and what follows them. -/
def spanDigits (t : Text) : List Nat × Text :=
  (t.takeWhile CodePoint.isDigit |>.filterMap CodePoint.digit?, t.dropWhile CodePoint.isDigit)

/-- Whether a sign at the beginning of a text is a minus, and what follows the sign. -/
def spanSign : Text → Bool × Text
  | CodePoint.minus :: rest => (true, rest)
  | CodePoint.plus :: rest => (false, rest)
  | t => (false, t)

/-- The exponent that makes up a text. -/
def exponent? : Text → Option (Option (Bool × List Nat))
  | [] => some none
  | c :: rest =>
    if c = 0x65 || c = 0x45 then
      let (negative, rest) := spanSign rest
      let (digits, rest) := spanDigits rest
      if digits.isEmpty || !rest.isEmpty then none else some (some (negative, digits))
    else none

/-- The number that makes up a text. -/
def number? (t : Text) : Option WrittenNumber :=
  let (negative, t) := spanSign t
  let (whole, t) := spanDigits t
  let (fraction, t) :=
    match t with
    | CodePoint.dot :: rest =>
      let (digits, rest) := spanDigits rest
      (some digits, rest)
    | t => (none, t)
  if whole.isEmpty && (fraction.getD []).isEmpty then none
  else (exponent? t).map fun exponent => ⟨negative, whole, fraction, exponent⟩

end Recommender.Script
