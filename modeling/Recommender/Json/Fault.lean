import Recommender.Text.Digit

/-!
What can be wrong with a JSON text, and where.
-/
namespace Recommender

/-- What is wrong at a place of a JSON text. -/
inductive JsonReason where
  | byteOrderMark
  | noValue
  | noName
  | noColon
  | noComma
  | extraData
  | openString
  | controlCharacter
  | unknownEscape
  | brokenEscape
deriving DecidableEq

/-- A fault with its place: the offset in the text, and line and column counted from one. -/
structure JsonFault where
  reason : JsonReason
  offset : Nat
  line : Nat
  column : Nat
deriving DecidableEq

/-- The wording of what is wrong. -/
def JsonReason.message : JsonReason → Text
  | .byteOrderMark => "Unexpected UTF-8 BOM (decode using utf-8-sig)"
  | .noValue => "Expecting value"
  | .noName => "Expecting property name enclosed in double quotes"
  | .noColon => "Expecting ':' delimiter"
  | .noComma => "Expecting ',' delimiter"
  | .extraData => "Extra data"
  | .openString => "Unterminated string starting at"
  | .controlCharacter => "Invalid control character at"
  | .unknownEscape => "Invalid \\escape"
  | .brokenEscape => "Invalid \\uXXXX escape"

/-- The wording of a fault with its place. -/
def JsonFault.message (fault : JsonFault) : Text :=
  fault.reason.message ++ ": line " ++ Text.ofNat fault.line ++ " column "
    ++ Text.ofNat fault.column ++ " (char " ++ Text.ofNat fault.offset ++ ")"

/-- The fault at an offset of a text. -/
def JsonFault.at (t : Text) (offset : Nat) (reason : JsonReason) : JsonFault :=
  let before := t.take offset
  let sinceLine := before.reverse.takeWhile (· ≠ CodePoint.lineFeed)
  ⟨reason, offset, before.count CodePoint.lineFeed + 1, sinceLine.length + 1⟩

end Recommender
