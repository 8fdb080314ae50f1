import Recommender.Command.Arguments
import Recommender.Component.Kind

/-!
The commands of the command line, and the reading of its arguments.
-/
namespace Recommender

/-- A command. Lenient commands pass unknown properties through. -/
inductive Command where
  | describe (paths : List Text) (lenient : Bool)
  | validate (paths : List Text) (lenient : Bool)
  | components (kind : Option Text) (verbose : Bool)
  | render (path : Text) (header : Bool)

/-- A command with the options that all commands share. -/
structure Invocation where
  level : Option Text
  catalog : Option Text
  command : Command

/-- The options of the command line. -/
inductive CommandOption where
  | logLevel
  | catalog
  | lenient
  | kind
  | verbose
  | header
deriving DecidableEq

namespace CommandOption

open Arguments

/-- The request for help. -/
def help : Rule CommandOption :=
  ⟨["-h", "--help"], .help⟩

/-- The options before the name of the command. -/
def shared : List (Rule CommandOption) :=
  [help, ⟨["--log-level"], .value .logLevel fun _ => true⟩,
    ⟨["--catalog"], .value .catalog fun _ => true⟩]

/-- The options of a command that loads configurations. -/
def loading : List (Rule CommandOption) :=
  [help, ⟨["--lenient"], .switch .lenient⟩]

/-- The options of the command that lists components. -/
def listing : List (Rule CommandOption) :=
  [help, ⟨["--kind"], .value .kind fun t => (ComponentKind.ofText? t).isSome⟩,
    ⟨["-v", "--verbose"], .switch .verbose⟩]

/-- The options of the command that writes a configuration in the normal form. -/
def rendering : List (Rule CommandOption) :=
  [help, ⟨["--header"], .switch .header⟩]

end CommandOption

namespace Command

open Arguments

/-- A reading in which nothing was left over. -/
def complete (reading : Reading CommandOption) : Except Stop (Reading CommandOption) :=
  if reading.stray then .error .misuse else .ok reading

/-- The command of a name with its arguments. -/
def ofArguments (name : Text) (arguments : List Text) : Except Stop Command :=
  if name = "show" then do
    let reading ← complete (← read CommandOption.loading .any arguments)
    return .describe reading.words (reading.isSet .lenient)
  else if name = "validate" then do
    let reading ← complete (← read CommandOption.loading .any arguments)
    return .validate reading.words (reading.isSet .lenient)
  else if name = "components" then do
    let reading ← complete (← read CommandOption.listing (.atMost 0) arguments)
    return .components (reading.value? .kind) (reading.isSet .verbose)
  else if name = "render" then do
    let reading ← complete (← read CommandOption.rendering (.atMost 1) arguments)
    return .render (reading.words.headD []) (reading.isSet .header)
  else .error .misuse

/-- Whether unknown properties are passed through. -/
def isLenient : Command → Bool
  | .describe _ lenient => lenient
  | .validate _ lenient => lenient
  | _ => false

end Command

/-- The invocation that the arguments of the command line make. -/
def Invocation.ofArguments (arguments : List Text) : Except Arguments.Stop Invocation := do
  let reading ← Arguments.read CommandOption.shared .command arguments
  let command ← Command.ofArguments (reading.words.headD []) reading.words.tail
  let reading ← Command.complete reading
  return ⟨reading.value? .logLevel, reading.value? .catalog, command⟩

end Recommender
