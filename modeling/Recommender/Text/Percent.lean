import Recommender.Text.Utf8

/-!
Percent escapes: a percent sign and two hexadecimal digits stand for a byte, and the bytes of a run
of ASCII text are read as UTF-8.
-/
namespace Recommender.Percent

/-- The byte that two hexadecimal digits stand for. -/
def byte? (high low : CodePoint) : Option UInt8 := do
  return UInt8.ofNat (16 * (← high.hexDigit?) + (← low.hexDigit?))

/-- A code point after a run of ASCII, which it prolongs or ends. -/
def plain (run : List UInt8) (c : CodePoint) : List UInt8 × Text :=
  if c.val < 0x80 then (UInt8.ofNat c.val :: run, [])
  else ([], Utf8.decodeLossy run.reverse ++ [c])

/-- Decodes a text after a run of ASCII whose bytes are given, the last one first. -/
def decodeAfter (run : List UInt8) : Text → Text
  | [] => Utf8.decodeLossy run.reverse
  | CodePoint.percent :: high :: low :: rest =>
    match byte? high low with
    | some byte => decodeAfter (byte :: run) rest
    | none => decodeAfter (0x25 :: run) (high :: low :: rest)
  | c :: rest => (plain run c).2 ++ decodeAfter (plain run c).1 rest

/-- A text with its percent escapes decoded; a percent sign that begins none stays. -/
def decode (t : Text) : Text :=
  decodeAfter [] t

end Recommender.Percent
