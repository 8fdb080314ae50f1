import Recommender.Component.Kind
import Recommender.Files.Fault
import Recommender.Json.Fault
import Recommender.Schema.Fault
import Recommender.Script.Fault
import Recommender.Text.Blank
import Recommender.Text.Utf8
import Recommender.Value

/-!
Problems and failures. A problem is something wrong with a configuration, and whoever loads one is
prepared for it; it may gather several issues, each about a single property. A failure is a problem
or the refusal of an operation for a reason of its own.
-/
namespace Recommender

/-- What a property expects. -/
inductive Expectation where
  | component (kind : ComponentKind)
  | scalar (kind : ScalarKind)
  | finiteNumber
  | atLeast (kind : ScalarKind) (minimum : Double)
  | nonEmptyName

/-- The wording of an expectation. -/
def Expectation.text : Expectation → Text
  | .component kind => kind.text ++ " component"
  | .scalar kind => kind.text
  | .finiteNumber => "finite float"
  | .atLeast kind minimum => kind.text ++ " >= " ++ minimum.boundText
  | .nonEmptyName => "non-empty str"

/-- What is wrong with one property. -/
inductive Issue where
  | unresolved (name : Text) (kind : Option ComponentKind)
  | ambiguous (name : Text) (candidates : List Text)
  | unknownPath (path : Text) (owner : Option Text)
  | mismatch (path : Text) (expected : Expectation) (value : Datum)

namespace Issue

/-- The name of the kind of an issue. -/
def label : Issue → Text
  | .unresolved .. => "UnresolvedComponentError"
  | .ambiguous .. => "AmbiguousComponentError"
  | .unknownPath .. => "UnknownPathError"
  | .mismatch .. => "TypeMismatchError"

/-- The wording of an issue. -/
def message : Issue → Text
  | .unresolved name (some kind) => "Unknown " ++ kind.text ++ " component: " ++ name
  | .unresolved name none => "Unknown component: " ++ name
  | .ambiguous name candidates =>
    "Component name " ++ Text.shown name ++ " is ambiguous: " ++ Text.join ", " candidates
  | .unknownPath path none => "Unknown property " ++ Text.shown path
  | .unknownPath path (some owner) =>
    "Unknown property " ++ Text.shown path
      ++ (if owner.isEmpty then ([] : Text) else " for " ++ owner)
  | .mismatch path expected value =>
    "Property " ++ Text.shown path ++ " expects " ++ expected.text ++ ", got " ++ value.shown

end Issue

/-- Why a source defines no usable recommender. -/
inductive Unusable where
  | noModule
  | invalidJson (fault : JsonFault)
  | constant (name : Text)
  | notObject
  | invalidName (path name : Text)
  | unsupported (path shape : Text)
  | invalidPath (path : Text)
  | nonFinite (path : Text) (x : Double)
  | noReader (extension : Text)
  | unreadable (fault : FileFault)
  | absent
  | unknownName

/-- The refusal of a path that is none. -/
def invalidPathText (path : Datum) : Text :=
  "Invalid property path: " ++ path.shown

/-- The refusal of a number that is not finite. -/
def nonFiniteText (path : Text) (x : Double) : Text :=
  "Cannot assign non-finite number " ++ x.text ++ " to " ++ Text.shown path

/-- The wording of a reason. -/
def Unusable.message : Unusable → Text
  | .noModule => "No recommender configured"
  | .invalidJson fault => "Invalid JSON: " ++ fault.message
  | .constant name => "Non-finite number " ++ name ++ " is not allowed"
  | .notObject => "JSON configuration must be an object"
  | .invalidName path name => "Invalid component name for " ++ path ++ ": " ++ Text.shown name
  | .unsupported path shape => "Unsupported value for " ++ path ++ ": " ++ shape
  | .invalidPath path => invalidPathText (.text path)
  | .nonFinite path x => nonFiniteText path x
  | .noReader extension => "Cannot find loader for extension " ++ Text.shown extension
  | .unreadable fault => "Cannot read configuration: " ++ fault.message
  | .absent => "No such file or directory"
  | .unknownName => "No configuration with this name"

/-- A problem of a configuration. -/
inductive Problem where
  | invalidPath (path : Datum)
  | frozen (path : Datum)
  | script (fault : ScriptFault) (source : Option Text) (line : Int) (text : Text)
  | issue (single : Issue)
  | invalid (issues : List Issue) (source : Option Text)
  | unusable (source : Option Text) (reason : Unusable)
  | unreadableCatalog (path : Text) (fault : FileFault)
  | invalidCatalog (path : Text) (faults : List SchemaFault)

/-- The source of a script in messages, where an unnamed script is called one. -/
def scriptSourceText (source : Option Text) : Text :=
  match source with
  | some (c :: rest) => c :: rest
  | _ => "<script>"

/-- What stands before a message about a source; nothing if the source has no name. -/
def sourceLead (source : Option Text) : Text :=
  match source with
  | some (c :: rest) => c :: rest ++ ": "
  | _ => []

namespace Problem

/-- The name of the kind of a problem. -/
def label : Problem → Text
  | .invalidPath _ => "InvalidPathError"
  | .frozen _ => "RecordFrozenError"
  | .script .. => "ScriptSyntaxError"
  | .issue single => single.label
  | .invalid .. => "ConfigurationValidationError"
  | .unusable .. => "InvalidRecommenderError"
  | .unreadableCatalog .. => "ConfigurationError"
  | .invalidCatalog .. => "ConfigurationError"

/-- The wording of a problem. -/
def message : Problem → Text
  | .invalidPath path => invalidPathText path
  | .frozen path =>
    if path.isGiven then
      "Cannot modify " ++ path.shown ++ ": configuration record is frozen"
    else "Configuration record is frozen"
  | .script fault source line text =>
    scriptSourceText source ++ ":" ++ Text.ofInt line ++ ": " ++ fault.message ++ ": "
      ++ Text.shown text.trim
  | .issue single => single.message
  | .invalid issues source =>
    sourceLead source ++ Text.ofNat issues.length ++ " configuration error(s): "
      ++ Text.join "; " (issues.map Issue.message)
  | .unusable source reason => sourceLead source ++ reason.message
  | .unreadableCatalog path fault =>
    "Cannot read component catalog " ++ path ++ ": " ++ fault.message
  | .invalidCatalog path _ => "Invalid component catalog " ++ path

/-- The issues that a problem gathers; any other problem is the only one. -/
def parts : Problem → List Text
  | .invalid issues _ => issues.map Issue.message
  | p => [p.message]

end Problem

/-- Why an operation failed. -/
inductive Failure where
  | problem (p : Problem)
  | noneAssigned (path : Text)
  | unsupportedValue (path shape : Text)
  | nonFinite (path : Text) (x : Double)
  | absentPath (path : Datum)
  | unhashable (shape : Text)
  | tooManyDigits (count : Nat)
  | undecodable (fault : DecodeFault)
  | unencodable (fault : EncodeFault)
  | unserializable (fault : EncodeFault)
  | invalidName (name : Datum)
  | alreadyRegistered (name : Text)
  | aliasTaken (taken owner : Text)
  | unknownKind (kind : Datum)
  | file (fault : FileFault)
  | schema (faults : List SchemaFault)
  | unwritable (shape : Text)
  | layoutAsLevel (layout : Text)
  | notFinite
  | incomparable
  | immutable

/-- The wording of a failure. -/
def Failure.message : Failure → Text
  | .problem p => p.message
  | .noneAssigned path => "Cannot assign None to " ++ Text.shown path ++ "; use unset()"
  | .unsupportedValue path shape => "Unsupported value for " ++ Text.shown path ++ ": " ++ shape
  | .nonFinite path x => nonFiniteText path x
  | .absentPath path => path.shown
  | .unhashable shape => "unhashable type: " ++ Text.shown shape
  | .tooManyDigits count =>
    "Exceeds the limit (4300 digits) for integer string conversion: value has "
      ++ Text.ofNat count
      ++ " digits; use sys.set_int_max_str_digits() to increase the limit"
  | .undecodable fault => fault.message
  | .unencodable fault => fault.message
  | .unserializable fault =>
    "Error serializing to JSON: UnicodeEncodeError: " ++ fault.message
  | .invalidName name => "Invalid component name: " ++ name.shown
  | .alreadyRegistered name => "Component already registered: " ++ name
  | .aliasTaken taken owner => "Alias " ++ Text.shown taken ++ " already used by " ++ owner
  | .unknownKind kind => kind.shown ++ " is not a valid ComponentKind"
  | .file fault => fault.message
  | .schema _ => []
  | .unwritable shape => "Cannot render value of type " ++ shape
  | .layoutAsLevel layout => "Unknown level: " ++ Text.shown layout
  | .notFinite => "Out of range float values are not JSON compliant"
  | .incomparable => "'<' not supported between instances of 'str' and 'float'"
  | .immutable => "ComponentReference is immutable"

/-- The reference that a datum gives: a reference itself, or a text that is a component name. -/
def Reference.ofDatum : Datum → Except Failure Reference
  | .reference r => .ok r
  | .text t =>
    match Reference.ofText? t with
    | some r => .ok r
    | none => .error (.invalidName (.text t))
  | d => .error (.invalidName d)

end Recommender
