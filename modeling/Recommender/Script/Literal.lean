import Recommender.Text.CharacterName
import Recommender.Text.Digit

/-!
String literals. A literal is enclosed by two equal quotes and lies on one line; inside it a
backslash begins an escape. An escape that stands for nothing in particular is kept as it is
written.
-/
namespace Recommender.Script

/-- What stands between the quotes of a literal, given what follows the opening quote. The closing
quote is the last code point and no other quote is free of a backslash. -/
def literalBody? (quote : CodePoint) : Text → Option Text
  | [] => none
  | CodePoint.backslash :: c :: rest =>
    if c = CodePoint.lineFeed then none
    else (CodePoint.backslash :: c :: ·) <$> literalBody? quote rest
  | [c] => if c = quote then some [] else none
  | c :: rest =>
    if c = quote || c = CodePoint.backslash || c = CodePoint.lineFeed then none
    else (c :: ·) <$> literalBody? quote rest

/-- The body of a text that is a literal. -/
def literalBodyOf? : Text → Option Text
  | CodePoint.doubleQuote :: rest => literalBody? CodePoint.doubleQuote rest
  | CodePoint.singleQuote :: rest => literalBody? CodePoint.singleQuote rest
  | _ => none

/-- The letters that stand for a single code point behind a backslash. -/
def simpleEscapes : List (CodePoint × CodePoint) :=
  [(0x6E, CodePoint.lineFeed), (0x74, CodePoint.tab), (0x72, CodePoint.carriageReturn),
    (0x62, CodePoint.backspace), (0x66, CodePoint.formFeed), (0x76, CodePoint.verticalTab),
    (0x61, CodePoint.bell), (CodePoint.backslash, CodePoint.backslash),
    (CodePoint.singleQuote, CodePoint.singleQuote), (CodePoint.doubleQuote, CodePoint.doubleQuote)]

/-- The letters that begin an escape of hexadecimal digits, with the number of digits. -/
def hexEscapes : List (CodePoint × Nat) :=
  [(0x78, 2), (0x75, 4), (0x55, 8)]

/-- The value of an octal digit. -/
def octalDigit? (c : CodePoint) : Option Nat :=
  if 0x30 ≤ c.val && c.val ≤ 0x37 then some (c.val - 0x30) else none

/-- What an escape denotes, and how many code points behind the backslash belong to it. -/
def escape? : Text → Option (Text × Nat)
  | [] => some ([CodePoint.backslash], 0)
  | c :: rest =>
    if let some denoted := simpleEscapes.lookup c then some ([denoted], 1)
    else if let some count := hexEscapes.lookup c then
      ((Text.hexValue? count (rest.take count)).bind CodePoint.ofNat?).map fun denoted =>
        ([denoted], 1 + count)
    else if (octalDigit? c).isSome then
      let digits := ((c :: rest).take 3).takeWhile fun d => (octalDigit? d).isSome
      let value := (digits.filterMap octalDigit?).foldl (fun value digit => 8 * value + digit) 0
      some ([Fin.ofNat _ value], digits.length)
    else if c = 0x4E then
      match rest with
      | CodePoint.openBrace :: rest =>
        let name := rest.takeWhile (· ≠ CodePoint.closeBrace)
        if name.length < rest.length then
          (CodePoint.ofName? name).map fun denoted => ([denoted], name.length + 3)
        else none
      | _ => none
    else if c = CodePoint.carriageReturn then some ([], 1)
    else some ([CodePoint.backslash], 0)

/-- The text that the body of a literal denotes. Raw carriage returns, null characters and
surrogates cannot stand in a literal. -/
def denoted? : Text → Option Text
  | [] => some []
  | c :: rest =>
    if c = CodePoint.backslash then do
      let (denoted, count) ← escape? rest
      (denoted ++ ·) <$> denoted? (rest.drop count)
    else if c = CodePoint.carriageReturn || c = CodePoint.null || c.isSurrogate then none
    else (c :: ·) <$> denoted? rest
termination_by t => t.length
decreasing_by
  · simp only [List.length_drop, List.length_cons]; omega
  · simp

end Recommender.Script
