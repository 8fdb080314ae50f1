import Recommender.Text.Digit

/-!
Reading the arguments of a command. An argument is an option, a word or the separator after which
all arguments are words. Long options may be shortened to what is clear, short ones may share one
argument, and a value follows its option, after an equals sign or as the next word.
-/
namespace Recommender.Arguments

/-- Why arguments are not carried out: help is asked for, or they make no sense. -/
inductive Stop where
  | help
  | misuse
deriving DecidableEq

/-- What an option stands for: a request for help, a switch, or a value of some form. -/
inductive Meaning (κ : Type) where
  | help
  | switch (key : κ)
  | value (key : κ) (allows : Text → Bool)

/-- An option with all its names. -/
structure Rule (κ : Type) where
  names : List Text
  meaning : Meaning κ

/-- What one argument is. What is attached to the name of an option begins with an equals sign, or
else it belongs to a short option. -/
inductive Token (κ : Type) where
  | option (rule : Rule κ) (attached : Text)
  | unknown
  | word
  | separator

/-- What words are for: a number of them, any number, or a word and all that follows it. -/
inductive Intake where
  | atMost (count : Nat)
  | any
  | command
deriving DecidableEq

/-- What has been read: the options with their values, latest first, and the words. The words are
taken in one run. An option may wait for its value, and there may be arguments that nobody takes. -/
structure Reading (κ : Type) where
  options : List (κ × Text)
  words : List Text
  closed : Bool
  waiting : Option (Rule κ)
  stray : Bool

variable {κ : Type}

/-- The argument after which all arguments are words. -/
def separatorText : Text := "--"

/-- Whether an option takes a value. -/
def Rule.takesValue (rule : Rule κ) : Bool :=
  match rule.meaning with
  | .value .. => true
  | _ => false

/-- The option of a name. -/
def named? (rules : List (Rule κ)) (name : Text) : Option (Rule κ) :=
  rules.find? (·.names.contains name)

/-- The options with a name that begins with a text, one for each such name. -/
def abbreviated (rules : List (Rule κ)) (start : Text) : List (Rule κ) :=
  rules.flatMap fun rule => (rule.names.filter (·.startsWith start)).map fun _ => rule

/-- Whether a text looks like a negative number; a line feed at its end is passed over. -/
def isNegativeNumber (t : Text) : Bool :=
  let isRun (t : Text) : Bool := !t.isEmpty && t.all CodePoint.isDigit
  match t with
  | CodePoint.minus :: rest =>
    let rest := if rest.getLast? = some CodePoint.lineFeed then rest.dropLast else rest
    match rest.dropWhile CodePoint.isDigit with
    | [] => isRun rest
    | CodePoint.dot :: fraction => isRun fraction
    | _ => false
  | _ => false

/-- What an argument is that begins with a dash and is no name of an option. -/
def otherToken (argument : Text) : Token κ :=
  if isNegativeNumber argument || argument.contains CodePoint.space then .word else .unknown

/-- What an argument before the separator is. -/
def tokenOf (rules : List (Rule κ)) (argument : Text) : Except Stop (Token κ) :=
  let name := argument.takeWhile (· ≠ CodePoint.equals)
  let attached := argument.dropWhile (· ≠ CodePoint.equals)
  match argument with
  | CodePoint.minus :: second :: _ =>
    match (named? rules argument).map (·, []), (named? rules name).map (·, attached) with
    | some (rule, attached), _ => .ok (.option rule attached)
    | none, some (rule, attached) => .ok (.option rule attached)
    | none, none =>
      if second = CodePoint.minus then
        match abbreviated rules name with
        | [] => .ok (otherToken argument)
        | [rule] => .ok (.option rule attached)
        | _ => .error .misuse
      else
        match named? rules (argument.take 2) with
        | some rule => .ok (.option rule (argument.drop 2))
        | none => .ok (otherToken argument)
  | _ => .ok .word

/-- What the arguments are, each with its text. -/
def tokens (rules : List (Rule κ)) : List Text → Except Stop (List (Text × Token κ))
  | [] => .ok []
  | argument :: rest =>
    if argument = separatorText then
      .ok ((argument, .separator) :: rest.map (·, .word))
    else do
      let token ← tokenOf rules argument
      return (argument, token) :: (← tokens rules rest)

/-- The options that share an argument with their values, and whether something is left that is no
option. -/
def shared (rules : List (Rule κ)) (rule : Rule κ)
    : Text → Except Stop (List (Rule κ × Option Text) × Bool)
  | [] => .ok ([(rule, none)], false)
  | c :: rest =>
    if rule.takesValue then
      .ok ([(rule, some (if c = CodePoint.equals then rest else c :: rest))], false)
    else if c = CodePoint.equals || c = CodePoint.minus then .error .misuse
    else
      match named? rules [CodePoint.minus, c] with
      | none => .ok ([(rule, none)], true)
      | some next => do
        let (others, stray) ← shared rules next rest
        return ((rule, none) :: others, stray)

namespace Reading

/-- The reading of no arguments. -/
def start : Reading κ :=
  ⟨[], [], false, none, false⟩

/-- Takes an option with the value that is attached to it. -/
def takeOption (reading : Reading κ) (use : Rule κ × Option Text) : Except Stop (Reading κ) :=
  match use.1.meaning, use.2 with
  | .help, _ => .error .help
  | .switch key, _ => .ok { reading with options := (key, []) :: reading.options }
  | .value key allows, some value =>
    if allows value then .ok { reading with options := (key, value) :: reading.options }
    else .error .misuse
  | .value .., none => .ok { reading with waiting := some use.1 }

/-- Takes a word, or what follows the first word if all of that belongs to it. -/
def takeWord (intake : Intake) (reading : Reading κ) (word : Text) : Reading κ :=
  if reading.closed || intake = .atMost reading.words.length then { reading with stray := true }
  else { reading with words := reading.words ++ [word] }

/-- Takes the separator, which belongs to the words around it. -/
def takeSeparator (intake : Intake) (reading : Reading κ) : Reading κ :=
  if reading.closed || intake = .atMost 0 then { reading with stray := true } else reading

/-- The reading after an argument that is no word, where the run of words ends. -/
def endWords (reading : Reading κ) : Reading κ :=
  { reading with closed := !reading.words.isEmpty }

/-- Takes one argument. -/
def take (rules : List (Rule κ)) (intake : Intake) (reading : Reading κ)
    (argument : Text × Token κ)
    : Except Stop (Reading κ) :=
  match reading.waiting, argument.2 with
  | some rule, .word => { reading with waiting := none }.takeOption (rule, some argument.1)
  | some _, _ => .error .misuse
  | none, token =>
    if intake = .command && !reading.words.isEmpty then
      .ok { reading with words := reading.words ++ [argument.1] }
    else
      match token with
      | .word => .ok (reading.takeWord intake argument.1)
      | .separator =>
        if intake = .command then .error .misuse else .ok (reading.takeSeparator intake)
      | .unknown => .ok { reading.endWords with stray := true }
      | .option rule attached => do
        let (uses, stray) ← shared rules rule attached
        let reading ← uses.foldlM takeOption reading.endWords
        return { reading with stray := reading.stray || stray }

/-- Whether a switch is set. -/
def isSet [BEq κ] (reading : Reading κ) (key : κ) : Bool :=
  (reading.options.lookup key).isSome

/-- The last value of an option. -/
def value? [BEq κ] (reading : Reading κ) (key : κ) : Option Text :=
  reading.options.lookup key

end Reading

/-- Reads arguments. There are words unless none are taken. -/
def read (rules : List (Rule κ)) (intake : Intake) (arguments : List Text)
    : Except Stop (Reading κ) := do
  let reading ← (← tokens rules arguments).foldlM (Reading.take rules intake) Reading.start
  if reading.waiting.isSome || (reading.words.isEmpty && intake ≠ .atMost 0) then .error .misuse
  else return reading

end Recommender.Arguments
