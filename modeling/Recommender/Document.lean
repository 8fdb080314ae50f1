import Recommender.Json.Parser
import Recommender.Record

/-!
Configuration documents: JSON objects whose nested names, joined by dots, are the paths of a record.
A text that begins with an at sign names a component.
-/
namespace Recommender.Document

/-- The value of a leaf. -/
def leaf (source : Option Text) (path : Text) : Datum → Except Failure Datum
  | .text (CodePoint.atSign :: name) =>
    match Reference.ofText? name with
    | some reference => .ok (.reference reference)
    | none => .error (.problem (.unusable source (.invalidName path name)))
  | .text t => .ok (.text t)
  | .bool b => .ok (.bool b)
  | .int n => .ok (.int n)
  | .float x => .ok (.float x)
  | d => .error (.problem (.unusable source (.unsupported path d.shape)))

mutual

/-- The leaves of a datum that stands at a path. A missing value is no leaf. -/
def leavesOf (source : Option Text) (path : Text) : Datum → Except Failure (List (Text × Datum))
  | .map entries => leaves source path entries
  | .missing => .ok []
  | d => (leaf source path d).map fun value => [(path, value)]

/-- The leaves of the members of an object that stands at a path, each with its own path. -/
def leaves (source : Option Text) (above : Text)
    : List (Text × Datum) → Except Failure (List (Text × Datum))
  | [] => .ok []
  | (key, d) :: rest => do
    let first ← leavesOf source (Path.joinParts [above, key]) d
    let others ← leaves source above rest
    return first ++ others

end

/-- The failure of a leaf that a record refuses. -/
def refusal (source : Option Text) (path : Text) : Failure → Failure
  | .problem (.invalidPath _) => .problem (.unusable source (.invalidPath path))
  | .nonFinite _ x => .problem (.unusable source (.nonFinite path x))
  | failure => failure

/-- Assigns leaves one after the other. -/
def assignLeaves (source : Option Text) (r : Record) : List (Text × Datum) → Except Failure Record
  | [] => .ok r
  | (path, d) :: rest =>
    match r.set (.text path) d with
    | .ok r => assignLeaves source r rest
    | .error failure => .error (refusal source path failure)

/-- The rules of configuration documents: numbers are finite. -/
def rules : Json.Rules :=
  ⟨false, true⟩

/-- The failure of a text that cannot be read. -/
def stopped (source : Option Text) (t : Text) : Json.Stop → Failure
  | .fault reason rest =>
    .problem (.unusable source (.invalidJson (Json.faultOf t reason rest)))
  | .constant name => .problem (.unusable source (.constant name))
  | .tooManyDigits count => .tooManyDigits count

/-- The record that a document describes. -/
def toRecord (source : Option Text) (t : Text) : Except Failure Record :=
  match Json.parse rules t with
  | .error stop => .error (stopped source t stop)
  | .ok (.map entries) => do
    let found ← leaves source [] entries
    assignLeaves source Record.empty found
  | .ok _ => .error (.problem (.unusable source .notObject))

end Recommender.Document
