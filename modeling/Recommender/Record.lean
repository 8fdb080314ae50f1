import Recommender.Problem
import Recommender.Table

/-!
Configuration records. A record maps property paths to values in the order of their first
assignment and remembers every assignment. A frozen record refuses all changes.
-/
namespace Recommender

/-- A configuration record. -/
structure Record where
  values : Table Path Value
  history : List (Path × Value)
  frozen : Bool

/-- What an operation left of a record, and why it stopped if it did. -/
structure Attempt where
  record : Record
  failure : Option Failure

namespace Record

/-- The record without assignments. -/
def empty : Record :=
  ⟨∅, [], false⟩

instance : Inhabited Record := ⟨empty⟩

/-- The record after one more assignment, frozen or not. -/
def push (r : Record) (path : Path) (value : Value) : Record :=
  { r with values := r.values.put path value, history := r.history ++ [(path, value)] }

/-- Assigns a value at a path. -/
def assign (r : Record) (path : Path) (value : Value) : Except Failure Record :=
  if r.frozen then .error (.problem (.frozen (.text path.text)))
  else .ok (r.push path value)

/-- The value that a datum assigned at a path is. -/
def assignable (path : Path) : Datum → Except Failure Value
  | .missing => .error (.noneAssigned path.text)
  | .float (.finite x) => .ok (.float x)
  | .float x => .error (.nonFinite path.text x)
  | .bool b => .ok (.bool b)
  | .int n => .ok (.int n)
  | .text t => .ok (.text t)
  | .reference r => .ok (.reference r)
  | d => .error (.unsupportedValue path.text d.shape)

/-- The path that a datum is. -/
def pathOf? : Datum → Option Path
  | .text t => Path.ofText? t
  | _ => none

/-- Assigns a datum at a path that is itself given from outside. -/
def set (r : Record) (path value : Datum) : Except Failure Record :=
  if r.frozen then .error (.problem (.frozen path))
  else
    match pathOf? path with
    | none => .error (.problem (.invalidPath path))
    | some path => (assignable path value).map (r.push path)

/-- The path that a look-up asks for. Lists and maps cannot be looked up. -/
def lookupPath : Datum → Except Failure (Option Path)
  | .list items => .error (.unhashable (Datum.list items).shape)
  | .map entries => .error (.unhashable (Datum.map entries).shape)
  | d => .ok (pathOf? d)

/-- The value at a path. -/
def get? (r : Record) (path : Path) : Option Value :=
  r.values.find? path

/-- The value at a path given from outside. -/
def find (r : Record) (path : Datum) : Except Failure (Option Value) :=
  (lookupPath path).map (·.bind r.get?)

/-- Drops the assignment at a path given from outside. -/
def unset (r : Record) (path : Datum) : Except Failure Record :=
  if r.frozen then .error (.problem (.frozen path))
  else do
    match (← lookupPath path) with
    | some p =>
      if r.values.contains p then .ok { r with values := r.values.erase p }
      else .error (.absentPath path)
    | none => .error (.absentPath path)

/-- Assigns one datum after the other and stops at the first that is refused. -/
def update (r : Record) : List (Datum × Datum) → Attempt
  | [] => ⟨r, none⟩
  | (path, value) :: rest =>
    match r.set path value with
    | .ok r => r.update rest
    | .error failure => ⟨r, some failure⟩

/-- Assigns one value after the other and stops at the first that is refused. -/
def assignAll (r : Record) : List (Path × Value) → Attempt
  | [] => ⟨r, none⟩
  | (path, value) :: rest =>
    match r.assign path value with
    | .ok r => r.assignAll rest
    | .error failure => ⟨r, some failure⟩

/-- The record of a list of assignments. -/
def ofList (assignments : List (Path × Value)) : Record :=
  assignments.foldl (fun r assignment => r.push assignment.1 assignment.2) empty

/-- The record that refuses all changes from now on. -/
def freeze (r : Record) : Record :=
  { r with frozen := true }

/-- A record with the same assignments that can be changed; earlier assignments are forgotten. -/
def copy (r : Record) : Record :=
  ofList r.values.entries

/-- The paths in order. -/
def paths (r : Record) : List Path :=
  r.values.keys

/-- The assignments below a path, seen from there. -/
def below (r : Record) (above : Path) : Table Path Value :=
  Table.ofList (r.values.entries.filterMap fun (path, value) =>
    ((above.below? path).bind Path.ofText?).map (·, value))

/-- The assignments below a path given from outside. -/
def subtree (r : Record) (above : Datum) : Except Failure (Table Path Value) :=
  match pathOf? above with
  | none => .error (.problem (.invalidPath above))
  | some above => .ok (r.below above)

/-- The record laid over defaults: a path that is not assigned keeps its default. -/
def applyTo (r : Record) (defaults : Table Text Datum) : Table Text Datum :=
  defaults.putAll (r.values.entries.map fun (path, value) => (path.text, value.toDatum))

/-- The assignments with references given by their names. -/
def plain (r : Record) : Table Path Value :=
  r.values.mapValues Value.plain

/-- Whether two records assign equal values at the same paths. -/
def equals (r other : Record) : Bool :=
  r.values.sameEntries Value.equals other.values

/-- A record as messages show it. -/
def shown (r : Record) : Text :=
  let entries := r.values.entries.map fun (path, value) => (path.text, value.toDatum)
  "<ConfigurationRecord" ++ (if r.frozen then " frozen" else "") ++ " "
    ++ (Datum.map entries).shown ++ ">"

end Record

/-- The result of an operation that may stop halfway, as a whole. -/
def Attempt.toExcept (a : Attempt) : Except Failure Record :=
  match a.failure with
  | none => .ok a.record
  | some failure => .error failure

end Recommender
