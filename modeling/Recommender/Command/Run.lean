import Recommender.Command.Basic
import Recommender.Component.Catalog
import Recommender.Files.Loading
import Recommender.Json.Printer
import Recommender.Level
import Recommender.Script.Printer

/-!
Running commands over a file tree. A run leaves an exit code and what is written to the two outputs.
-/
namespace Recommender

/-- What a run leaves. -/
structure Report where
  exit : Nat
  output : Text
  errors : Text
deriving DecidableEq

namespace Report

/-- A run that went well. -/
def success (output : Text) : Report :=
  ⟨0, output, []⟩

/-- The lines that report a problem. -/
def problemLines (p : Problem) : List Text :=
  let parts :=
    match p with
    | .invalid .. => p.parts
    | _ => []
  ("ERROR: " ++ p.label ++ ": " ++ p.message) :: parts.map ("  - " ++ ·)

/-- Lines with their ends. -/
def ofLines (lines : List Text) : Text :=
  lines.flatMap (· ++ "\n")

/-- A run that met a problem. -/
def problem (p : Problem) : Report :=
  ⟨1, [], ofLines (problemLines p)⟩

/-- One run after the other: the worse exit code, and the outputs in order. -/
def append (first second : Report) : Report :=
  ⟨max first.exit second.exit, first.output ++ second.output, first.errors ++ second.errors⟩

end Report

namespace Command

/-- A result in which a problem is reported. -/
def reporting (logged : Logged Report) : Logged Report :=
  match logged.outcome with
  | .error (.problem p) => ⟨logged.notices, .ok (Report.problem p)⟩
  | _ => logged

/-- The line for a valid algorithm. -/
def validLine (a : Algorithm) : Text :=
  "OK " ++ a.name ++ " (" ++ a.module.name ++ ") from " ++ a.source.getD "None"

/-- Validates what a path stands for. -/
def validatePath (tree : FileTree) (settings : Settings) (registry : Registry) (path : Text)
    : Logged Report :=
  reporting do
    let loaded ←
      Loading.algorithms tree settings registry settings.strict [FilePath.ofText path]
    return Report.success (Report.ofLines (loaded.values.map validLine))

/-- Validates one path after the other. -/
def validatePaths (tree : FileTree) (settings : Settings) (registry : Registry)
    : List Text → Logged Report
  | [] => pure (Report.success [])
  | path :: rest => do
    let first ← validatePath tree settings registry path
    let others ← validatePaths tree settings registry rest
    return first.append others

/-- The algorithms that paths stand for, as a JSON text. -/
def describePaths (tree : FileTree) (settings : Settings) (registry : Registry) (paths : List Text)
    : Logged Report := do
  let loaded ←
    Loading.algorithms tree settings registry settings.strict (paths.map FilePath.ofText)
  let summaries ← Logged.lift (loaded.values.mapM Algorithm.summary)
  return Report.success (Json.pretty (.list (summaries.map .map)) ++ "\n")

/-- The line for a parameter of a component. -/
def parameterLine (p : Parameter) : Text :=
  "    module." ++ p.path.text ++ " (" ++ p.type.text ++ ")"
    ++ (if p.hasDefault then " = " ++ p.default.plainText else [])

/-- The lines for a component. -/
def componentLines (verbose : Bool) (c : Component) : List Text :=
  let aliases : Text :=
    if c.aliases.isEmpty then [] else " [" ++ Text.join ", " c.aliases ++ "]"
  (Text.padEnd 11 c.kind.text ++ " " ++ c.name ++ aliases)
    :: (if verbose then c.parameters.map parameterLine else [])

/-- The components of a kind, or all of them. -/
def listComponents (registry : Registry) (kind : Option Text) (verbose : Bool)
    : Except Failure Report := do
  let found ←
    match kind with
    | some word => registry.byKindWord (.text word)
    | none => pure registry.toList
  return Report.success (Report.ofLines (found.flatMap (componentLines verbose)))

/-- A configuration file in the normal form of scripts, headed by its path if that is wanted. -/
def renderFile (tree : FileTree) (settings : Settings) (path : Text) (header : Bool)
    : Except Failure Report := do
  let r ← Loading.record tree settings (FilePath.ofText path)
  let header : Text := if header then "Rendered from " ++ path else []
  return Report.success (Script.render r settings.rootName header)

/-- Carries out a command. -/
def perform (tree : FileTree) (settings : Settings) (processors : Option Nat) (command : Command)
    : Logged Report :=
  let registry := Logged.lift (Registry.ofHost tree processors settings.catalog)
  match command with
  | .describe paths _ => do describePaths tree settings (← registry) paths
  | .validate paths _ => do validatePaths tree settings (← registry) paths
  | .components kind verbose => do Logged.lift (listComponents (← registry) kind verbose)
  | .render path header => Logged.lift (renderFile tree settings path header)

end Command

namespace Invocation

/-- The level of the log that an invocation chooses. -/
def logLevel (invocation : Invocation) : Except Failure Int :=
  match Settings.nonEmpty? invocation.level with
  | some name => Level.ofText name
  | none => .ok Level.standard

/-- What an invocation decides about settings. -/
def choices (invocation : Invocation) : Choices :=
  { Choices.none with
    strict := if invocation.command.isLenient then some false else none
    catalog := invocation.catalog }

/-- Runs an invocation; notices below the level of the log are left out. -/
def run (tree : FileTree) (environment : Environment) (processors : Option Nat)
    (invocation : Invocation)
    : Logged Report :=
  match invocation.logLevel with
  | .error failure => Logged.fail failure
  | .ok level =>
    let logged : Logged Report := do
      let settings ← Settings.resolve tree environment invocation.choices
      Command.reporting (invocation.command.perform tree settings processors)
    { logged with notices := Level.shown level logged.notices }

end Invocation

end Recommender
