import Recommender.Number.Written
import Recommender.Schema.Fault
import Recommender.Value

/-!
Checking data against a schema. All fields are checked, and the faults of all of them are reported
in the order of the fields.
-/
namespace Recommender

/-- A checked value, or the faults found. -/
abbrev Checked (α : Type) := Except (List SchemaFault) α

namespace Checked

/-- Both values, or the faults of both. -/
def and {α β : Type} (first : Checked α) (second : Checked β) : Checked (α × β) :=
  match first, second with
  | .ok a, .ok b => .ok (a, b)
  | .ok _, .error faults => .error faults
  | .error faults, .ok _ => .error faults
  | .error faults, .error more => .error (faults ++ more)

/-- A value checked one level further down. -/
def under {α : Type} (step : Text) : Checked α → Checked α
  | .ok a => .ok a
  | .error faults => .error (faults.map (SchemaFault.under step))

/-- A single fault at the place that is checked. -/
def fault {α : Type} (reason : SchemaReason) : Checked α :=
  .error [⟨reason, []⟩]

/-- All values, or the faults of all of them; items are numbered from `position` on. -/
def all {α : Type} (check : Datum → Checked α) (position : Nat) : List Datum → Checked (List α)
  | [] => .ok []
  | item :: rest =>
    (((check item).under (Text.ofNat position)).and (all check (position + 1) rest)).map
      fun (a, others) => a :: others

end Checked

namespace Schema

/-- A field that has to be there. -/
def required {α : Type} (entries : List (Text × Datum)) (name : Text) (check : Datum → Checked α)
    : Checked α :=
  Checked.under name <|
    match entries.lookup name with
    | some d => check d
    | none => Checked.fault .missing

/-- A field that may be left out. -/
def optional {α : Type} (entries : List (Text × Datum)) (name : Text) (fallback : α)
    (check : Datum → Checked α)
    : Checked α :=
  match entries.lookup name with
  | some d => (check d).under name
  | none => .ok fallback

/-- A text. -/
def text : Datum → Checked Text
  | .text t => .ok t
  | _ => Checked.fault .notText

/-- A list whose items are checked. -/
def list {α : Type} (check : Datum → Checked α) : Datum → Checked (List α)
  | .list items => Checked.all check 0 items
  | _ => Checked.fault .notList

/-- What a text stands for. A text with surrogates stands for nothing. -/
def standing {α : Type} (ofText? : Text → Option α) (otherwise : SchemaReason) (t : Text)
    : Checked α :=
  if t.any CodePoint.isSurrogate then Checked.fault .notUnicode
  else
    match ofText? t with
    | some a => .ok a
    | none => Checked.fault otherwise

/-- A word that stands for something. -/
def word {α : Type} (ofText? : Text → Option α) : Datum → Checked α
  | .text t => standing ofText? .notNamed t
  | _ => Checked.fault .notNamed

/-- A value that may also be missing. -/
def nullable {α : Type} (check : Datum → Checked α) : Datum → Checked (Option α)
  | .missing => .ok none
  | d => (check d).map some

/-- Whether a code point is white space around a written number. -/
def isNumberSpace (c : CodePoint) : Bool :=
  CodePoint.inRanges
    [(0x09, 0x0D), (0x20, 0x20), (0x85, 0x85), (0xA0, 0xA0), (0x1680, 0x1680), (0x2000, 0x200A),
      (0x2028, 0x2029), (0x202F, 0x202F), (0x205F, 0x205F), (0x3000, 0x3000)] c

/-- The digits of a text that is a run of ASCII digits. -/
def asciiDigits? (t : Text) : Option (List Nat) :=
  t.mapM CodePoint.asciiDigit?

/-- A sign at the beginning of a text, and what follows it. -/
def spanSign : Text → Bool × Text
  | CodePoint.minus :: rest => (true, rest)
  | CodePoint.plus :: rest => (false, rest)
  | t => (false, t)

/-- The number that makes up a text: digits with or without a point among or beside them, and an
exponent. -/
def decimal? (negative : Bool) (t : Text) : Option WrittenNumber := do
  let isMark (c : CodePoint) : Bool := c = 0x65 || c = 0x45
  let mantissa := t.takeWhile fun c => !isMark c
  let exponent ←
    match t.dropWhile fun c => !isMark c with
    | [] => some none
    | _ :: rest => do
      let (negative, rest) := spanSign rest
      let digits ← asciiDigits? rest
      if digits.isEmpty then none else some (some (negative, digits))
  let whole ← asciiDigits? (mantissa.takeWhile (· ≠ CodePoint.dot))
  let fraction ←
    match mantissa.dropWhile (· ≠ CodePoint.dot) with
    | [] => some none
    | _ :: rest => (asciiDigits? rest).map some
  if whole.isEmpty && (fraction.getD []).isEmpty then none
  else some ⟨negative, whole, fraction, exponent⟩

/-- The floating point number that makes up a text, words for infinity and for no number included. -/
def double? (t : Text) : Option Double :=
  let (negative, rest) := spanSign t
  let lower := rest.map CodePoint.asciiLower
  if lower = "inf" || lower = "infinity" then some (.infinite negative)
  else if lower = "nan" then some .nan
  else (decimal? negative rest).map WrittenNumber.toDouble

/-- A text without white space around it. -/
def trimNumber (t : Text) : Text :=
  ((t.dropWhile isNumberSpace).reverse.dropWhile isNumberSpace).reverse

/-- A text without the single underscores between its other code points. -/
def dropUnderscores? (t : Text) : Option Text :=
  let parts := Text.splitOn CodePoint.underscore t
  if parts.any List.isEmpty then none else some parts.flatten

/-- The floating point number that a text gives; single underscores may separate its digits. -/
def readDouble? (t : Text) : Option Double :=
  (double? (trimNumber t)).or ((dropUnderscores? t).bind double?)

/-- Whether an integer has at most 64 bits. -/
def isSmall (n : Int) : Bool :=
  decide (-(2 ^ 63 : Nat) ≤ n) && decide (n < (2 ^ 63 : Nat))

/-- A floating point number, given as a number, as a truth value or as text. `limited` says that
integers beyond 64 bits are refused. -/
def double (limited : Bool) : Datum → Checked Double
  | .float x => .ok x
  | .int n =>
    if limited && !isSmall n then Checked.fault .notNumber
    else
      match Double.ofInt n with
      | .finite x => .ok (.finite x)
      | _ => Checked.fault .notNumber
  | .bool b => .ok (.finite (if b then FiniteDouble.one else FiniteDouble.zero))
  | .text t => standing readDouble? .unreadableNumber t
  | _ => Checked.fault .notNumber

/-- The words for the truth values. -/
def boolWords : List (Text × Bool) :=
  [("0", false), ("off", false), ("f", false), ("false", false), ("n", false), ("no", false),
    ("1", true), ("on", true), ("t", true), ("true", true), ("y", true), ("yes", true)]

/-- The truth value that a word stands for, in any case of its ASCII letters. -/
def boolOfWord? (t : Text) : Option Bool :=
  boolWords.lookup (t.map CodePoint.asciiLower)

/-- The truth value that a number stands for. -/
def boolOfInt? (n : Int) : Option Bool :=
  if n = 0 then some false else if n = 1 then some true else none

/-- The integer that a floating point number is equal to, if it has less than 64 bits. -/
def smallInt? : Double → Option Int
  | .finite x => x.toInt?.filter fun n => decide (n.natAbs < 2 ^ 63)
  | _ => none

/-- A truth value, given as such, as zero or one, or as a word. -/
def bool : Datum → Checked Bool
  | .bool b => .ok b
  | .text t => standing boolOfWord? .unreadableBool t
  | .int n =>
    match boolOfInt? n with
    | some b => .ok b
    | none =>
      if isSmall n then Checked.fault .unreadableBool
      else Checked.fault .notBool
  | .float x =>
    match smallInt? x with
    | none => Checked.fault .notBool
    | some n =>
      match boolOfInt? n with
      | some b => .ok b
      | none => Checked.fault .unreadableBool
  | _ => Checked.fault .notBool

end Schema

end Recommender
