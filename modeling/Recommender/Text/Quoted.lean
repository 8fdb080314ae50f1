import Recommender.Text.Digit
import Recommender.Text.Printable

/-!
Quoted texts: the form in which messages show a text, with every code point visible, and the
ASCII form between double quotes that scripts and documents are written in.
-/
namespace Recommender

namespace CodePoint

/-- A code point inside a shown text that is enclosed by `quote`. -/
def shown (quote : CodePoint) (c : CodePoint) : Text :=
  if c = quote || c = backslash then [backslash, c]
  else if c = tab then "\\t"
  else if c = lineFeed then "\\n"
  else if c = carriageReturn then "\\r"
  else if c.isPrintable then [c]
  else if c.val < 0x100 then "\\x" ++ Text.ofHex 2 c.val
  else if c.val < 0x10000 then "\\u" ++ Text.ofHex 4 c.val
  else "\\U" ++ Text.ofHex 8 c.val

/-- The code points of the pair of surrogates that stands for a code point beyond the basic
plane. -/
def surrogatePair (c : CodePoint) : Nat × Nat :=
  (0xD800 + (c.val - 0x10000) / 0x400, 0xDC00 + (c.val - 0x10000) % 0x400)

/-- A code point inside an ASCII literal between double quotes. -/
def escaped (c : CodePoint) : Text :=
  match c with
  | doubleQuote => "\\\""
  | backslash => "\\\\"
  | lineFeed => "\\n"
  | carriageReturn => "\\r"
  | tab => "\\t"
  | backspace => "\\b"
  | formFeed => "\\f"
  | _ =>
    if 0x20 ≤ c.val && c.val ≤ 0x7E then [c]
    else if c.val < 0x10000 then "\\u" ++ Text.ofHex 4 c.val
    else "\\u" ++ Text.ofHex 4 c.surrogatePair.1 ++ "\\u" ++ Text.ofHex 4 c.surrogatePair.2

end CodePoint

namespace Text

/-- The quote that encloses a shown text: a single one, unless the text holds single quotes and no
double ones. -/
def shownQuote (t : Text) : CodePoint :=
  if t.contains CodePoint.singleQuote && !t.contains CodePoint.doubleQuote then
    CodePoint.doubleQuote
  else CodePoint.singleQuote

/-- A text as messages show it. -/
def shown (t : Text) : Text :=
  [shownQuote t] ++ t.flatMap (CodePoint.shown (shownQuote t)) ++ [shownQuote t]

/-- A text as an ASCII literal between double quotes. -/
def literal (t : Text) : Text :=
  [CodePoint.doubleQuote] ++ t.flatMap CodePoint.escaped ++ [CodePoint.doubleQuote]

end Text

end Recommender
