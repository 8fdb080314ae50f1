import Recommender.Json.Fault
import Recommender.Number.Written
import Recommender.Table
import Recommender.Value

/-!
Reading JSON. The reader works on what is left of the text, so the place of a fault is told by how
much is left. An object keeps each name at the place of its first member and with the value of its
last.
-/
namespace Recommender.Json

/-- What a reader lets through beyond the strict format. -/
structure Rules where
  constants : Bool
  loneSurrogates : Bool

/-- Why reading stopped: a fault before the text that is left, a number that is not finite, or an
integer with too many digits. -/
inductive Stop where
  | fault (reason : JsonReason) (rest : Text)
  | constant (name : Text)
  | tooManyDigits (count : Nat)

/-- Whether a code point may stand between the tokens. -/
def isSpace (c : CodePoint) : Bool :=
  c = CodePoint.space || c = CodePoint.tab || c = CodePoint.lineFeed
    || c = CodePoint.carriageReturn

/-- A text without the space at its beginning. -/
def skipSpace (t : Text) : Text :=
  t.dropWhile isSpace

/-- The letters that stand for a single code point behind a backslash. -/
def simpleEscapes : List (CodePoint × CodePoint) :=
  [(CodePoint.doubleQuote, CodePoint.doubleQuote), (CodePoint.backslash, CodePoint.backslash),
    (CodePoint.slash, CodePoint.slash), (0x62, CodePoint.backspace), (0x66, CodePoint.formFeed),
    (0x6E, CodePoint.lineFeed), (0x72, CodePoint.carriageReturn), (0x74, CodePoint.tab)]

/-- The letter of an escape of four hexadecimal digits. -/
@[match_pattern] abbrev unicodeLetter : CodePoint := 0x75

/-- Whether a number is that of a surrogate that begins a pair. -/
def isHighSurrogate (n : Nat) : Bool :=
  0xD800 ≤ n && n ≤ 0xDBFF

/-- Whether a number is that of a surrogate that ends a pair. -/
def isLowSurrogate (n : Nat) : Bool :=
  0xDC00 ≤ n && n ≤ 0xDFFF

/-- The code point that a pair of surrogates stands for. -/
def joinSurrogates (high low : Nat) : CodePoint :=
  Fin.ofNat _ (0x10000 + (high - 0xD800) * 0x400 + (low - 0xDC00))

/-- What an escape of four hexadecimal digits denotes and what is left after it, given the text
from its letter on. Two such escapes in a row may be a pair of surrogates; an escape or a pair is
followed by something, at least by the closing quote. -/
def unicodeEscape (t : Text) : Except Stop (Nat × Text) :=
  match Text.hexValue? 4 ((t.drop 1).take 4), t.drop 5 with
  | some value, c :: rest => .ok (value, c :: rest)
  | _, _ => .error (.fault .brokenEscape t)

/-- The code point of an escape of four hexadecimal digits, or of two of them that are a pair of
surrogates, and how many code points from the letter on belong to it. -/
def unicodeEscapes (rules : Rules) (t : Text) : Except Stop (CodePoint × Nat) := do
  let (first, rest) ← unicodeEscape t
  let alone : Except Stop (CodePoint × Nat) :=
    if !rules.loneSurrogates && (isHighSurrogate first || isLowSurrogate first) then
      .error (.fault .brokenEscape t)
    else .ok (Fin.ofNat _ first, 5)
  match rest with
  | CodePoint.backslash :: unicodeLetter :: more =>
    if isHighSurrogate first && 4 < more.length then do
      let (second, _) ← unicodeEscape (unicodeLetter :: more)
      if isLowSurrogate second then .ok (joinSurrogates first second, 11) else alone
    else alone
  | _ => alone

/-- The text of a string and what is left after its closing quote, given what follows its opening
quote; `opening` is the text from the opening quote on. -/
def string (rules : Rules) (opening : Text) : Text → Except Stop (Text × Text)
  | [] => .error (.fault .openString opening)
  | c :: rest =>
    if c = CodePoint.doubleQuote then .ok ([], rest)
    else if c = CodePoint.backslash then
      match rest with
      | [] => .error (.fault .openString opening)
      | letter :: more =>
        if letter = unicodeLetter then do
          let (denoted, count) ← unicodeEscapes rules (letter :: more)
          let (t, left) ← string rules opening ((letter :: more).drop count)
          return (denoted :: t, left)
        else
          match simpleEscapes.lookup letter with
          | some denoted => do
            let (t, left) ← string rules opening more
            return (denoted :: t, left)
          | none => .error (.fault .unknownEscape (c :: rest))
    else if c.val < 0x20 then .error (.fault .controlCharacter (c :: rest))
    else do
      let (t, left) ← string rules opening rest
      return (c :: t, left)
termination_by t => t.length
decreasing_by
  all_goals simp_all only [List.length_drop, List.length_cons]; omega

/-- The ASCII digits at the beginning of a text and what is left after them. -/
def digits (t : Text) : List Nat × Text :=
  let isDigit (c : CodePoint) := c.asciiDigit?.isSome
  (t.takeWhile isDigit |>.filterMap CodePoint.asciiDigit?, t.dropWhile isDigit)

/-- The digits before the point: a zero alone, or digits that do not begin with one. -/
def wholeDigits (t : Text) : List Nat × Text :=
  match digits t with
  | (0 :: _, _) => ([0], t.drop 1)
  | other => other

/-- The digits after a point; a point without digits is left. -/
def fraction (t : Text) : Option (List Nat) × Text :=
  match t with
  | CodePoint.dot :: rest =>
    match digits rest with
    | ([], _) => (none, t)
    | (found, rest) => (some found, rest)
  | _ => (none, t)

/-- An exponent; a letter without digits behind it is left. -/
def exponent (t : Text) : Option (Bool × List Nat) × Text :=
  match t with
  | c :: rest =>
    if c = 0x65 || c = 0x45 then
      let (negative, unsigned) :=
        match rest with
        | CodePoint.minus :: rest => (true, rest)
        | CodePoint.plus :: rest => (false, rest)
        | _ => (false, rest)
      match digits unsigned with
      | ([], _) => (none, t)
      | (found, rest) => (some (negative, found), rest)
    else (none, t)
  | [] => (none, t)

/-- The longest number at the beginning of a text, if there is one. -/
def number? (t : Text) : Option (WrittenNumber × Text) :=
  let (negative, unsigned) :=
    match t with
    | CodePoint.minus :: rest => (true, rest)
    | _ => (false, t)
  match wholeDigits unsigned with
  | ([], _) => none
  | (whole, rest) =>
    let (fraction, rest) := fraction rest
    let (exponent, rest) := exponent rest
    some (⟨negative, whole, fraction, exponent⟩, rest)

/-- The words that are values, and those that stand for numbers that are not finite. -/
def words : List (Text × Option Datum × Datum) :=
  [("null", some .missing, .missing), ("true", some (.bool true), .missing),
    ("false", some (.bool false), .missing), ("NaN", none, .float .nan),
    ("Infinity", none, .float (.infinite false)), ("-Infinity", none, .float (.infinite true))]

/-- A word or a number at the beginning of a text. -/
def scalar (rules : Rules) (t : Text) : Except Stop (Datum × Text) :=
  match words.find? fun entry => t.startsWith entry.1 with
  | some (word, some d, _) => .ok (d, t.drop word.length)
  | some (word, none, d) =>
    if rules.constants then .ok (d, t.drop word.length) else .error (.constant word)
  | none =>
    match number? t with
    | none => .error (.fault .noValue t)
    | some (number, rest) =>
      if !number.isInt then .ok (.float number.toDouble, rest)
      else if number.whole.length ≤ maxIntegerDigits then .ok (.int number.toInt, rest)
      else .error (.tooManyDigits number.whole.length)

mutual

/-- A value at the beginning of a text. Each call is one deeper than its caller, and none is deeper
than the text is long. -/
def value (rules : Rules) : Nat → Text → Except Stop (Datum × Text)
  | 0, t => .error (.fault .noValue t)
  | depth + 1, t =>
    match t with
    | CodePoint.doubleQuote :: rest => do
      let (found, rest) ← string rules t rest
      return (.text found, rest)
    | CodePoint.openBracket :: rest =>
      match skipSpace rest with
      | CodePoint.closeBracket :: rest => .ok (.list [], rest)
      | rest => do
        let (items, rest) ← items rules depth rest
        return (.list items, rest)
    | CodePoint.openBrace :: rest =>
      match skipSpace rest with
      | CodePoint.closeBrace :: rest => .ok (.map [], rest)
      | rest => do
        let (entries, rest) ← members rules depth rest
        return (.map (Table.ofList entries).entries, rest)
    | _ => scalar rules t

/-- The items of a list up to its closing bracket. -/
def items (rules : Rules) : Nat → Text → Except Stop (List Datum × Text)
  | 0, t => .error (.fault .noValue t)
  | depth + 1, t => do
    let (item, rest) ← value rules depth t
    match skipSpace rest with
    | CodePoint.closeBracket :: rest => .ok ([item], rest)
    | CodePoint.comma :: rest => do
      let (more, rest) ← items rules depth (skipSpace rest)
      return (item :: more, rest)
    | rest => .error (.fault .noComma rest)

/-- The members of an object up to its closing brace. -/
def members (rules : Rules) : Nat → Text → Except Stop (List (Text × Datum) × Text)
  | 0, t => .error (.fault .noName t)
  | depth + 1, t =>
    match t with
    | CodePoint.doubleQuote :: rest => do
      let (name, rest) ← string rules t rest
      match skipSpace rest with
      | CodePoint.colon :: rest => do
        let (member, rest) ← value rules depth (skipSpace rest)
        match skipSpace rest with
        | CodePoint.closeBrace :: rest => .ok ([(name, member)], rest)
        | CodePoint.comma :: rest => do
          let (more, rest) ← members rules depth (skipSpace rest)
          return ((name, member) :: more, rest)
        | rest => .error (.fault .noComma rest)
      | rest => .error (.fault .noColon rest)
    | _ => .error (.fault .noName t)

end

/-- The value that makes up a text. -/
def whole (rules : Rules) (t : Text) : Except Stop Datum := do
  let (d, rest) ← value rules (2 * t.length + 1) (skipSpace t)
  match skipSpace rest with
  | [] => .ok d
  | rest => .error (.fault .extraData rest)

/-- The value that a text denotes; a text must not begin with a byte order mark. -/
def parse (rules : Rules) (t : Text) : Except Stop Datum :=
  match t with
  | CodePoint.byteOrderMark :: _ => .error (.fault .byteOrderMark t)
  | _ => whole rules t

/-- The fault of a reader that stopped with a part of a text left. -/
def faultOf (t : Text) (reason : JsonReason) (rest : Text) : JsonFault :=
  JsonFault.at t (t.length - rest.length) reason

end Recommender.Json
