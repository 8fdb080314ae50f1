/-!
Texts are lists of code points. Surrogates are code points like any other, so that every text a
script, a document or a request can denote is a value here.
-/
namespace Recommender

-- Numerals are code points by this instance, whatever else is imported beside this module.
instance CodePoint.bounded : @NeZero Nat Zero.ofOfNat0 0x110000 := ⟨by decide⟩

/-- A Unicode code point, which may be a surrogate. -/
abbrev CodePoint := Fin 0x110000

/-- A sequence of code points. -/
abbrev Text := List CodePoint

namespace CodePoint

/-- The code point of a character. -/
def ofChar (c : Char) : CodePoint :=
  ⟨c.toNat, by
    have valid := c.valid
    simp only [UInt32.isValidChar, Nat.isValidChar] at valid
    have same : c.val.toNat = c.toNat := rfl
    omega⟩

/-- The code point with a given number, if there is one. -/
def ofNat? (n : Nat) : Option CodePoint :=
  if h : n < 0x110000 then some ⟨n, h⟩ else none

/-- Whether a code point is one half of a surrogate pair. -/
def isSurrogate (c : CodePoint) : Bool :=
  0xD800 ≤ c.val && c.val ≤ 0xDFFF

/-- The character at a code point; a surrogate is no character. -/
def toChar? (c : CodePoint) : Option Char :=
  if h : c.val.isValidChar then some (Char.ofNatAux c.val h) else none

/-- The code point of the decimal digit `d`, for `d` below ten. -/
def ofDigit (d : Nat) : CodePoint :=
  Fin.ofNat _ (0x30 + d)

@[match_pattern] abbrev null : CodePoint := 0x00
@[match_pattern] abbrev bell : CodePoint := 0x07
@[match_pattern] abbrev backspace : CodePoint := 0x08
@[match_pattern] abbrev tab : CodePoint := 0x09
@[match_pattern] abbrev lineFeed : CodePoint := 0x0A
@[match_pattern] abbrev verticalTab : CodePoint := 0x0B
@[match_pattern] abbrev formFeed : CodePoint := 0x0C
@[match_pattern] abbrev carriageReturn : CodePoint := 0x0D
@[match_pattern] abbrev space : CodePoint := 0x20
@[match_pattern] abbrev doubleQuote : CodePoint := 0x22
@[match_pattern] abbrev numberSign : CodePoint := 0x23
@[match_pattern] abbrev dollar : CodePoint := 0x24
@[match_pattern] abbrev percent : CodePoint := 0x25
@[match_pattern] abbrev ampersand : CodePoint := 0x26
@[match_pattern] abbrev singleQuote : CodePoint := 0x27
@[match_pattern] abbrev star : CodePoint := 0x2A
@[match_pattern] abbrev plus : CodePoint := 0x2B
@[match_pattern] abbrev comma : CodePoint := 0x2C
@[match_pattern] abbrev minus : CodePoint := 0x2D
@[match_pattern] abbrev dot : CodePoint := 0x2E
@[match_pattern] abbrev slash : CodePoint := 0x2F
@[match_pattern] abbrev colon : CodePoint := 0x3A
@[match_pattern] abbrev semicolon : CodePoint := 0x3B
@[match_pattern] abbrev equals : CodePoint := 0x3D
@[match_pattern] abbrev questionMark : CodePoint := 0x3F
@[match_pattern] abbrev atSign : CodePoint := 0x40
@[match_pattern] abbrev openBracket : CodePoint := 0x5B
@[match_pattern] abbrev backslash : CodePoint := 0x5C
@[match_pattern] abbrev closeBracket : CodePoint := 0x5D
@[match_pattern] abbrev underscore : CodePoint := 0x5F
@[match_pattern] abbrev openBrace : CodePoint := 0x7B
@[match_pattern] abbrev closeBrace : CodePoint := 0x7D
@[match_pattern] abbrev byteOrderMark : CodePoint := 0xFEFF
@[match_pattern] abbrev replacement : CodePoint := 0xFFFD

/-- Whether a code point lies in one of the given inclusive ranges. -/
def inRanges (ranges : List (Nat × Nat)) (c : CodePoint) : Bool :=
  ranges.any fun range => range.1 ≤ c.val && c.val ≤ range.2

/-- The value of an ASCII decimal digit. -/
def asciiDigit? (c : CodePoint) : Option Nat :=
  if 0x30 ≤ c.val && c.val ≤ 0x39 then some (c.val - 0x30) else none

/-- The value of an ASCII hexadecimal digit of either case. -/
def hexDigit? (c : CodePoint) : Option Nat :=
  if 0x30 ≤ c.val && c.val ≤ 0x39 then some (c.val - 0x30)
  else if 0x41 ≤ c.val && c.val ≤ 0x46 then some (c.val - 0x37)
  else if 0x61 ≤ c.val && c.val ≤ 0x66 then some (c.val - 0x57)
  else none

/-- The ASCII lower case of a code point. -/
def asciiLower (c : CodePoint) : CodePoint :=
  if 0x41 ≤ c.val && c.val ≤ 0x5A then Fin.ofNat _ (c.val + 0x20) else c

end CodePoint

namespace Text

/-- The code points of a string. -/
def ofString (s : String) : Text :=
  s.toList.map CodePoint.ofChar

instance : Coe String Text := ⟨ofString⟩

/-- A text as a string, if it holds no surrogate. -/
def toString? (t : Text) : Option String :=
  (t.mapM CodePoint.toChar?).map String.ofList

/-- The text left after a leading `lead`. -/
def dropLead? (lead t : Text) : Option Text :=
  if lead.isPrefixOf t then some (t.drop lead.length) else none

/-- Whether `part` is the beginning of `t`. -/
def startsWith (t part : Text) : Bool :=
  part.isPrefixOf t

/-- Whether `part` is the end of `t`. -/
def endsWith (t part : Text) : Bool :=
  part.isSuffixOf t

/-- The parts of a text with a code point added at the front of the first one. -/
def addToFirst (c : CodePoint) : List Text → List Text
  | [] => [[c]]
  | part :: parts => (c :: part) :: parts

/-- The parts of a text between occurrences of a code point; there is always at least one. -/
def splitOn (separator : CodePoint) : Text → List Text
  | [] => [[]]
  | c :: rest =>
    if c = separator then [] :: splitOn separator rest
    else addToFirst c (splitOn separator rest)

/-- The texts in order with a separator between neighbours. -/
def join (separator : Text) (parts : List Text) : Text :=
  separator.intercalate parts

/-- Code-point order. -/
def before : Text → Text → Bool
  | [], _ => true
  | _ :: _, [] => false
  | c :: s, d :: t => if c = d then before s t else c.val < d.val

/-- A text as a field of the given least width, blanks added at the end. -/
def padEnd (width : Nat) (t : Text) : Text :=
  t ++ List.replicate (width - t.length) CodePoint.space

end Text

end Recommender
