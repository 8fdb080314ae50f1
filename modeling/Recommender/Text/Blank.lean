import Recommender.Text.Basic

/-!
Blank code points and trimming. A blank is a code point that separates words: the Unicode white
space together with the four information separators.
-/
namespace Recommender

/-- The ranges of blank code points. -/
def CodePoint.blankRanges : List (Nat × Nat) :=
  [(0x9, 0xD), (0x1C, 0x20), (0x85, 0x85), (0xA0, 0xA0), (0x1680, 0x1680), (0x2000, 0x200A),
    (0x2028, 0x2029), (0x202F, 0x202F), (0x205F, 0x205F), (0x3000, 0x3000)]

/-- Whether a code point is blank. -/
def CodePoint.isBlank (c : CodePoint) : Bool :=
  CodePoint.inRanges CodePoint.blankRanges c

namespace Text

/-- A text without its leading blanks. -/
def trimStart (t : Text) : Text :=
  t.dropWhile CodePoint.isBlank

/-- A text without its trailing blanks. -/
def trimEnd (t : Text) : Text :=
  (t.reverse.dropWhile CodePoint.isBlank).reverse

/-- A text without the blanks at its two ends. -/
def trim (t : Text) : Text :=
  trimEnd (trimStart t)

/-- Whether a text holds nothing but blanks. -/
def isBlank (t : Text) : Bool :=
  t.all CodePoint.isBlank

end Text

end Recommender
