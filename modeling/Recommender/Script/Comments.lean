import Recommender.Text.Basic

/-!
Comments of a script. A comment runs from two slashes to the end of the line, or from a slash and a
star to the next star and slash; inside a string literal neither begins one. Removing comments keeps
every line feed, so lines stay where they were.
-/
namespace Recommender

/-- A block comment that is never closed: the line it opens on and how it begins. -/
structure OpenComment where
  line : Nat
  beginning : Text
deriving DecidableEq

/-- What a place in a script belongs to. -/
inductive ScriptMode where
  | code
  | literal (quote : CodePoint)
  | lineComment
  | blockComment (opening : OpenComment)
deriving DecidableEq

namespace Script

/-- Whether a code point opens a string literal. -/
def isQuote (c : CodePoint) : Bool :=
  c = CodePoint.singleQuote || c = CodePoint.doubleQuote

/-- The line after a code point that stands on a line. -/
def lineAfter (line : Nat) (c : CodePoint) : Nat :=
  if c = CodePoint.lineFeed then line + 1 else line

/-- How many code points of a comment that is never closed are shown. -/
def shownOfComment : Nat := 20

/-- Removes the comments of a text that begins on a line and in a mode. A literal ends at its quote
or at the end of the line; a backslash in it takes the next code point along. -/
def stripFrom (line : Nat) (mode : ScriptMode) : Text → Except OpenComment Text
  | [] =>
    match mode with
    | .blockComment opening => .error opening
    | _ => .ok []
  | c :: rest =>
    match mode with
    | .code =>
      match c, rest with
      | CodePoint.slash, CodePoint.slash :: rest => stripFrom line .lineComment rest
      | CodePoint.slash, CodePoint.star :: rest =>
        let beginning :=
          (CodePoint.slash :: CodePoint.star :: rest).take shownOfComment
        stripFrom line (.blockComment ⟨line, beginning⟩) rest
      | c, rest =>
        (c :: ·) <$> stripFrom (lineAfter line c) (if isQuote c then .literal c else .code) rest
    | .literal quote =>
      match c, rest with
      | CodePoint.backslash, escaped :: rest =>
        (CodePoint.backslash :: escaped :: ·)
          <$> stripFrom (lineAfter line escaped) (.literal quote) rest
      | c, rest =>
        let closed := c = quote || c = CodePoint.lineFeed
        (c :: ·) <$> stripFrom (lineAfter line c) (if closed then .code else .literal quote) rest
    | .lineComment =>
      if c = CodePoint.lineFeed then (c :: ·) <$> stripFrom (line + 1) .code rest
      else stripFrom line .lineComment rest
    | .blockComment opening =>
      match c, rest with
      | CodePoint.star, CodePoint.slash :: rest => stripFrom line .code rest
      | CodePoint.lineFeed, rest =>
        (CodePoint.lineFeed :: ·) <$> stripFrom (line + 1) (.blockComment opening) rest
      | _, rest => stripFrom line (.blockComment opening) rest

/-- A script without its comments. -/
def strip (t : Text) : Except OpenComment Text :=
  stripFrom 1 .code t

end Script

end Recommender
