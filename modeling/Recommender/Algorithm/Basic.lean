import Recommender.Algorithm.Validation
import Recommender.Record
import Recommender.Text.Blank

/-!
Algorithms: what a configuration record configures. The record names a module and overrides its
parameters; each path of the record is accounted for, and all that is wrong is reported at once. A
record that configures an algorithm is frozen.
-/
namespace Recommender

/-- A configured algorithm. -/
structure Algorithm where
  name : Text
  module : Component
  parameters : Table Path Value
  attributes : Table Path Value
  record : Record
  source : Option Text

/-- What handing a record over left of the record, and the algorithm that came of it. -/
structure HandOver where
  record : Record
  result : Logged Algorithm

namespace Algorithm

/-- The module that a record names. -/
def moduleOf (registry : Registry) (source : Option Text) (r : Record) : Except Failure Component :=
  let mismatch (value : Datum) : Except Failure Component :=
    .error (.problem (.invalid [.mismatch Path.module.text (.component .module) value] source))
  match r.get? Path.module with
  | none => .error (.problem (.unusable source .noModule))
  | some (.reference reference) =>
    match registry.resolve reference.name (some .module) with
    | .error issue => .error (.problem (.issue issue))
    | .ok c => if c.kind = .module then .ok c else mismatch (.text reference.name)
  | some value => mismatch value.toDatum

/-- The name that a record assigns: a text with content. -/
def recordName (r : Record) : Except Issue (Option Text) :=
  let mismatch (value : Value) : Except Issue (Option Text) :=
    .error (.mismatch Path.name.text .nonEmptyName value.toDatum)
  match r.get? Path.name with
  | none => .ok none
  | some (.text t) => if t.isBlank then mismatch (.text t) else .ok (some t)
  | some value => mismatch value

/-- What is wrong with the name that a record assigns. -/
def nameIssues (r : Record) : List Issue :=
  match recordName r with
  | .ok _ => []
  | .error issue => [issue]

/-- The name of an algorithm: the record's, or else `fallback`, or else the one its module is
displayed by. -/
def nameOf (r : Record) (fallback : Option Text) (module : Component) : Text :=
  (((recordName r).toOption.bind id).or fallback).getD module.displayName

/-- Whether a path is one that an algorithm knows: its name, its module, or one below the module or
the attributes. -/
def isKnown (path : Path) : Bool :=
  path = Path.name || path = Path.module || (Path.module.below? path).isSome
    || (Path.attributes.below? path).isSome

/-- The paths of a record that an algorithm does not know. -/
def unknownPaths (r : Record) : List Path :=
  r.paths.filter fun path => !isKnown path

/-- What is wrong with the paths that an algorithm does not know; they may be there unless validation
is strict. -/
def unknownIssues (strict : Bool) (r : Record) : List Issue :=
  if strict then (unknownPaths r).map (Issue.unknownPath ·.text none) else []

/-- The source of a record, or the algorithm if the record has no named source. -/
def holder (source : Option Text) (name : Text) : Text :=
  match source with
  | some (c :: rest) => c :: rest
  | _ => name

/-- Hands a record over to become an algorithm. Nothing but the last step changes the record. -/
def handOver (registry : Registry) (strict : Bool) (fallback source : Option Text) (r : Record)
    : HandOver :=
  match moduleOf registry source r with
  | .error failure => ⟨r, Logged.fail failure⟩
  | .ok module =>
    let name := nameOf r fallback module
    let ignored :=
      if strict then [] else (unknownPaths r).map (Notice.ignored ·.text (holder source name))
    let findings :=
      Validation.examine .record registry module strict (r.below Path.module).entries
    let notices := ignored ++ findings.notices
    match findings.failure, nameIssues r ++ unknownIssues strict r ++ findings.issues with
    | some failure, _ => ⟨r, notices, .error failure⟩
    | none, [] =>
      let frozen := r.freeze
      let algorithm : Algorithm :=
        { name, module
          parameters := Table.ofList findings.kept
          attributes := r.below Path.attributes
          record := frozen
          source }
      ⟨frozen, notices, .ok algorithm⟩
    | none, issues => ⟨r, notices, .error (.problem (.invalid issues source))⟩

/-- The algorithm that a record configures. -/
def ofRecord (registry : Registry) (strict : Bool) (fallback source : Option Text) (r : Record)
    : Logged Algorithm :=
  (handOver registry strict fallback source r).result

/-- The parameters in effect: the module's defaults with the overrides laid over them. -/
def effective (a : Algorithm) : Except Failure (Table Path Datum) := do
  let defaults ← a.module.defaults
  return defaults.overlay (a.parameters.mapValues Value.toDatum)

/-- The value in effect at a path. -/
def parameter (a : Algorithm) (path : Text) (fallback : Datum) : Except Failure Datum := do
  let effective ← a.effective
  return ((Path.ofText? path).bind effective.find?).getD fallback

/-- An algorithm as messages show it. -/
def shown (a : Algorithm) : Text :=
  "<AlgorithmInstance " ++ a.name ++ " (" ++ a.module.name ++ ")>"

/-- A table with path keys as a map of plain data. -/
def plainMap (table : Table Path Datum) : Datum :=
  .map (table.entries.map fun (path, d) => (path.text, d.plain))

/-- A summary of an algorithm as plain data. -/
def summary (a : Algorithm) : Except Failure (List (Text × Datum)) := do
  let effective ← a.effective
  return [("name", .text a.name), ("module", .text a.module.name),
    ("parameters", plainMap (a.parameters.mapValues Value.toDatum)),
    ("effective_parameters", plainMap effective),
    ("attributes", plainMap (a.attributes.mapValues Value.toDatum)),
    ("source", a.source.elim .missing .text)]

end Algorithm

end Recommender
