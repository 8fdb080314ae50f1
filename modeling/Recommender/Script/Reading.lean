import Recommender.Record
import Recommender.Script.Statement
import Recommender.Script.Value

/-!
Reading a configuration script: a sequence of assignments to properties of a root object. Reading
yields the assignments before the first fault, and the fault.
-/
namespace Recommender

/-- An assignment with the line that its statement stands on. -/
structure Assignment where
  line : Nat
  path : Path
  value : Value
deriving DecidableEq

/-- The assignments of a script up to the first fault. -/
structure Reading where
  assignments : List Assignment
  failure : Option Failure

namespace Script

/-- The name of the root object unless settings have another one. -/
def defaultRoot : Text := "rec"

/-- The two sides of the first equals sign of a statement; the left one is never empty. -/
def sides? (statement : Text) : Option (Text × Text) :=
  match statement.span (· ≠ CodePoint.equals) with
  | ([], _) => none
  | (_, []) => none
  | (target, _ :: value) => some (target, value)

/-- The failure of a statement or a comment. -/
def failureAt (source : Option Text) (line : Int) (fault : ScriptFault) (text : Text) : Failure :=
  .problem (.script fault source line text)

/-- The failure of a value. -/
def valueFailure (source : Option Text) (line : Int) : ValueFault → Failure
  | .script fault text => failureAt source line fault text
  | .tooManyDigits count => .tooManyDigits count

/-- The assignment that a statement makes. -/
def assignment (source : Option Text) (root : Text) (line : Nat) (statement : Text)
    : Except Failure Assignment :=
  let fail (fault : ScriptFault) := failureAt source line fault statement
  match sides? statement with
  | none => .error (fail .noAssignment)
  | some (target, right) =>
    match Text.dropLead? (root ++ ".") target.trim with
    | none => .error (fail (.wrongRoot (root ++ ".")))
    | some below =>
      match Path.ofText? below with
      | none => .error (fail (.invalidPath below))
      | some path =>
        match value right with
        | .ok value => .ok ⟨line, path, value⟩
        | .error fault => .error (valueFailure source line fault)

/-- Reads statements up to the first fault. -/
def readStatements (source : Option Text) (root : Text) : List (Nat × Text) → Reading
  | [] => ⟨[], none⟩
  | (line, statement) :: rest =>
    match assignment source root line statement with
    | .error failure => ⟨[], some failure⟩
    | .ok made =>
      let reading := readStatements source root rest
      { reading with assignments := made :: reading.assignments }

/-- Reads a script. A comment that is never closed leaves nothing to read. -/
def read (source : Option Text) (root t : Text) : Reading :=
  match strip t with
  | .error opening =>
    ⟨[], some (failureAt source opening.line .openComment opening.beginning)⟩
  | .ok stripped => readStatements source root (numberedStatements stripped)

/-- Makes the assignments of a script in a record. -/
def applyTo (r : Record) (source : Option Text) (root t : Text) : Attempt :=
  let reading := read source root t
  let attempt := r.assignAll (reading.assignments.map fun a => (a.path, a.value))
  { attempt with failure := attempt.failure.or reading.failure }

/-- The record that a script describes. -/
def toRecord (source : Option Text) (root t : Text) : Except Failure Record :=
  (applyTo Record.empty source root t).toExcept

end Script

end Recommender
