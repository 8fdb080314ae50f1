import Recommender.Command.Run

/-!
The command line. It looks at the files that an invocation names, runs the invocation over them, and
writes what the run leaves.
-/
namespace Recommender

/-- A text for the terminal; surrogates are replaced. -/
def Text.display (t : Text) : String :=
  String.ofList (t.map fun c => c.toChar?.getD (Char.ofNat CodePoint.replacement.val))

/-- The paths whose files an invocation may need. -/
def Invocation.places (invocation : Invocation) (environment : Environment) : List FilePath :=
  let named : List Text :=
    match invocation.command with
    | .describe paths _ => paths
    | .validate paths _ => paths
    | .components .. => []
    | .render path _ => [path]
  let catalog := ((Settings.nonEmpty? invocation.catalog).or environment.catalog).toList
  let directories := Settings.directoryEntries (environment.scriptDirectories.getD [])
  (named ++ catalog ++ directories).map FilePath.ofText

namespace CommandLine

/-- What is shown to those who ask for help, or whose arguments make no sense. -/
def usage : String :=
  "usage: recommender [-h] [--log-level LEVEL] [--catalog FILE] COMMAND ...\n\n"
    ++ "  show [--lenient] PATH ...         print configured algorithms as JSON\n"
    ++ "  validate [--lenient] PATH ...     check configuration files\n"
    ++ "  components [--kind KIND] [-v]     list known components\n"
    ++ "  render [--header] PATH            print a configuration in script syntax\n"

/-- What stands at a place on disk, if anything does. -/
def look (place : FilePath) : IO (List (FilePath × FileNode)) := do
  let onDisk := (← IO.currentDir) / place.text.display
  if ← onDisk.isDir then return [(place, .directory)]
  else if ← onDisk.pathExists then
    return [(place, .file (← IO.FS.readBinFile onDisk).toList)]
  else return []

/-- What stands along a path on disk, and right below its end. -/
def gather (path : FilePath) : IO (List (FilePath × FileNode)) := do
  let mut place : FilePath := { path with parts := [] }
  let mut found := []
  for part in path.parts do
    place := FileTree.step place part
    found := found ++ (← look place)
  let onDisk := (← IO.currentDir) / place.text.display
  if ← onDisk.isDir then
    for entry in ← onDisk.readDir do
      found := found ++ (← look (place.child (Text.ofString entry.fileName)))
  return found

/-- The environment of the program. -/
def environment : IO Environment := do
  let setting (name : String) : IO (Option Text) :=
    return (← IO.getEnv name).map Text.ofString
  return ⟨← setting "RECCONFIG_ROOT_NAME", ← setting "RECCONFIG_STRICT",
    ← setting "RECCONFIG_SCRIPT_DIRS", ← setting "RECCONFIG_CATALOG"⟩

/-- The number of processors of the machine, as far as it can be told. -/
def processors : IO (Option Nat) := do
  try
    let lines ← IO.FS.lines "/proc/cpuinfo"
    return some (lines.filter (·.startsWith "processor")).size
  catch _ => return none

/-- Runs an invocation and writes what it leaves. -/
def run (invocation : Invocation) : IO UInt32 := do
  let environment ← environment
  let entries ← (invocation.places environment).mapM gather
  let tree := FileTree.ofEntries entries.flatten
  let logged := invocation.run tree environment (← processors)
  for notice in logged.notices do
    IO.eprintln ("[" ++ notice.severity.text.display ++ "] " ++ notice.message.display)
  match logged.outcome with
  | .ok report =>
    IO.print report.output.display
    IO.eprint report.errors.display
    return UInt32.ofNat report.exit
  | .error failure =>
    IO.eprintln failure.message.display
    return 1

end CommandLine

end Recommender

/-- Reads the arguments and runs the invocation that they make. -/
def main (arguments : List String) : IO UInt32 := do
  match Recommender.Invocation.ofArguments (arguments.map Recommender.Text.ofString) with
  | .ok invocation => Recommender.CommandLine.run invocation
  | .error .help =>
    IO.print Recommender.CommandLine.usage
    return 0
  | .error .misuse =>
    IO.eprint Recommender.CommandLine.usage
    return 2
