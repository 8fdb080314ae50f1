import Recommender.Text.Digit
import Recommender.Text.Name.Alias
import Recommender.Text.Name.Ancient
import Recommender.Text.Name.EastAsian
import Recommender.Text.Name.European
import Recommender.Text.Name.Gesture
import Recommender.Text.Name.Mathematical
import Recommender.Text.Name.Musical
import Recommender.Text.Name.Phonetic
import Recommender.Text.Name.Picture
import Recommender.Text.Name.Presentation
import Recommender.Text.Name.Regional
import Recommender.Text.Name.SouthAsian
import Recommender.Text.Name.Symbol

/-!
Names of characters by the rules of Unicode 14. Most are listed; Hangul syllables are spelled, and
ideographs and the characters of some scripts are numbered. Upper and lower case are the same but in
names that are spelled and in those of unified ideographs.
-/
namespace Recommender.CodePoint

/-- The ASCII upper case of a code point. -/
def asciiUpper (c : CodePoint) : CodePoint :=
  if 0x61 ≤ c.val && c.val ≤ 0x7A then Fin.ofNat _ (c.val - 0x20) else c

/-- The spellings of the consonants that a syllable begins with. -/
def syllableLeads : List String :=
  ["G", "GG", "N", "D", "DD", "R", "M", "B", "BB", "S", "SS", "", "J", "JJ", "C", "K", "T", "P",
    "H"]

/-- The spellings of the vowels of syllables. -/
def syllableVowels : List String :=
  ["A", "AE", "YA", "YAE", "EO", "E", "YEO", "YE", "O", "WA", "WAE", "OE", "YO", "U", "WEO", "WE",
    "WI", "YU", "EU", "YI", "I"]

/-- The spellings of what a syllable ends with. -/
def syllableTails : List String :=
  ["", "G", "GG", "GS", "N", "NJ", "NH", "D", "L", "LG", "LM", "LB", "LS", "LT", "LP", "LH", "M",
    "B", "BS", "S", "SS", "NG", "J", "C", "K", "T", "P", "H"]

/-- The longest of several spellings that a text begins with: its position, and what is left. -/
def longestSpelling? (spellings : List String) (t : Text) : Option (Nat × Text) :=
  let fitting := spellings.zipIdx.filterMap fun (spelling, position) =>
    (Text.dropLead? spelling t).map fun rest => (position, rest)
  fitting.foldl (fun best next =>
    match best with
    | some (_, left) => if next.2.length < left.length then some next else best
    | none => some next) none

/-- The number of the syllable that a text spells. -/
def syllable? (t : Text) : Option Nat := do
  let (lead, t) ← longestSpelling? syllableLeads t
  let (vowel, t) ← longestSpelling? syllableVowels t
  let (tail, t) ← longestSpelling? syllableTails t
  if t.isEmpty then
    some (0xAC00 + (lead * syllableVowels.length + vowel) * syllableTails.length + tail)
  else none

/-- The ranges of unified ideographs. -/
def ideographRanges : List (Nat × Nat) :=
  [(0x3400, 0x4DBF), (0x4E00, 0x9FFF), (0x20000, 0x2A6DF), (0x2A700, 0x2B738), (0x2B740, 0x2B81D),
    (0x2B820, 0x2CEA1), (0x2CEB0, 0x2EBE0), (0x30000, 0x3134A)]

/-- The number that four or five hexadecimal digits in upper case stand for. -/
def hexNumber? (t : Text) : Option Nat :=
  if (t.length = 4 || t.length = 5) && t.map asciiUpper = t then Text.hexValue? t.length t
  else none

/-- The number of the unified ideograph that digits stand for. -/
def ideograph? (t : Text) : Option Nat :=
  (hexNumber? t).filter fun n => ideographRanges.any fun range => range.1 ≤ n && n ≤ range.2

/-- What stands before the number of a character that is named by it, and the ranges of such
characters. -/
def numberedNames : List (String × List (Nat × Nat)) :=
  [("CJK COMPATIBILITY IDEOGRAPH-", [(0xF900, 0xFA6D), (0xFA70, 0xFAD9), (0x2F800, 0x2FA1D)]),
    ("KHITAN SMALL SCRIPT CHARACTER-", [(0x18B00, 0x18CD5)]),
    ("NUSHU CHARACTER-", [(0x1B170, 0x1B2FB)])]

/-- The number of the character that is named by it; a number has no zeros before it. -/
def numbered? (name : Text) : Option Nat :=
  numberedNames.findSome? fun (lead, ranges) => do
    let digits ← Text.dropLead? lead name
    let n ← hexNumber? digits
    if (ranges.any fun range => range.1 ≤ n && n ≤ range.2)
        && (digits.length = if n < 0x10000 then 4 else 5) then some n
    else none

/-- The number of the variation selector that an abbreviation stands for. -/
def variationSelector? (name : Text) : Option Nat := do
  let n ← (List.range 257).find? fun n => name = "VS" ++ Text.ofNat n
  if n = 0 then none else if n ≤ 16 then some (0xFDFF + n) else some (0xE00EF + n)

/-- The number of the character with a further name. -/
def further? (name : Text) : Option Nat :=
  (NameRun.aliases.find? fun (_, names) => (NameRun.listedIn names).contains name).map (·.1)

/-- All tables of names. -/
def nameTables : List (List NameRun) :=
  [NameRun.european, NameRun.southAsian, NameRun.regional, NameRun.phonetic, NameRun.symbols,
    NameRun.mathematical, NameRun.eastAsian, NameRun.presentation, NameRun.ancient,
    NameRun.musical, NameRun.gestures, NameRun.pictures]

/-- The number of the character with a name that is listed. -/
def listed? (name : Text) : Option Nat :=
  nameTables.findSome? (·.findSome? (NameRun.find? name))

/-- The number of the character with a name. -/
def numberOfName? (name : Text) : Option Nat :=
  match Text.dropLead? "HANGUL SYLLABLE " name, Text.dropLead? "CJK UNIFIED IDEOGRAPH-" name with
  | some spelling, _ => syllable? spelling
  | none, some digits => ideograph? digits
  | none, none =>
    let name := name.map asciiUpper
    (((listed? name).or (further? name)).or (numbered? name)).or (variationSelector? name)

/-- The code point with a name. -/
def ofName? (name : Text) : Option CodePoint :=
  (numberOfName? name).bind ofNat?

end Recommender.CodePoint
