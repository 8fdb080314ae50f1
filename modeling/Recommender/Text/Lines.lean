import Recommender.Text.Basic

/-!
Lines of a text. A line ends at any code point that Unicode or ASCII uses to end lines or to
separate records; a carriage return takes a line feed behind it along.
-/
namespace Recommender

/-- Whether a code point ends a line. -/
def CodePoint.isLineEnd (c : CodePoint) : Bool :=
  inRanges [(0x0A, 0x0D), (0x1C, 0x1E), (0x85, 0x85), (0x2028, 0x2029)] c

namespace Text

/-- A text cut at its line ends, which are left out; the last line need not be ended. -/
def lines : Text → List Text
  | [] => []
  | CodePoint.carriageReturn :: CodePoint.lineFeed :: rest => [] :: lines rest
  | c :: rest =>
    if c.isLineEnd then [] :: lines rest
    else addToFirst c (lines rest)

/-- A text in which every carriage return, with a line feed behind it if there is one, has become
one line feed. -/
def unifyNewlines : Text → Text
  | [] => []
  | CodePoint.carriageReturn :: CodePoint.lineFeed :: rest =>
    CodePoint.lineFeed :: unifyNewlines rest
  | CodePoint.carriageReturn :: rest => CodePoint.lineFeed :: unifyNewlines rest
  | c :: rest => c :: unifyNewlines rest

end Text

end Recommender
