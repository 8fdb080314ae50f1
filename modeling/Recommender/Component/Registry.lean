import Recommender.Component.Basic

/-!
The registry of components known to the host. A component is found by its full name, by an alias,
or by its short name when that is clear.
-/
namespace Recommender

/-- Components by full name in the order of registration, and the owner of each alias. -/
structure Registry where
  components : Table Text Component
  aliases : Table Text Text

namespace Registry

/-- The registry without components. -/
def empty : Registry :=
  ⟨∅, ∅⟩

instance : Inhabited Registry := ⟨empty⟩

/-- The components in order. -/
def toList (r : Registry) : List Component :=
  r.components.values

/-- The number of components. -/
def size (r : Registry) : Nat :=
  r.components.size

/-- An alias that another component than the one with the given name owns, and its owner. -/
def takenAlias? (r : Registry) (name : Text) (aliases : List Text) : Option (Text × Text) :=
  aliases.findSome? fun other =>
    match r.aliases.find? other with
    | some owner => if owner = name then none else some (other, owner)
    | none => none

/-- The registry with a component put in, in place of the one of the same name if there is one. -/
def insert (r : Registry) (c : Component) : Registry :=
  let released := ((r.components.find? c.name).elim [] Component.aliases).foldl Table.erase r.aliases
  { components := r.components.put c.name c
    aliases := c.aliases.foldl (fun owners other => owners.put other c.name) released }

/-- Registers a component. A component of the same name is in the way unless it is replaced, and so
is an alias of another component. -/
def register (r : Registry) (c : Component) (replace : Bool) : Except Failure Registry :=
  if r.components.contains c.name && !replace then .error (.alreadyRegistered c.name)
  else
    match r.takenAlias? c.name c.aliases with
    | some (other, owner) => .error (.aliasTaken other owner)
    | none => .ok (r.insert c)

/-- Registers one component after the other and stops at the first that is refused. -/
def registerAll (r : Registry) (replace : Bool) : List Component → Registry × Option Failure
  | [] => (r, none)
  | c :: rest =>
    match r.register c replace with
    | .ok r => r.registerAll replace rest
    | .error failure => (r, some failure)

/-- The registry of a list of components. -/
def ofList (components : List Component) : Except Failure Registry :=
  match empty.registerAll false components with
  | (r, none) => .ok r
  | (_, some failure) => .error failure

/-- The component with a full name or an alias. -/
def findExactly (r : Registry) (name : Text) : Option Component :=
  (r.components.find? name).or ((r.aliases.find? name).bind r.components.find?)

/-- The components with a short name, narrowed to a kind if one is given. -/
def candidates (r : Registry) (name : Text) (kind : Option ComponentKind) : List Component :=
  r.toList.filter fun c => c.shortName = name && kind.all (c.kind = ·)

/-- The component that a name stands for. A kind narrows the search by short name and no other. -/
def resolve (r : Registry) (name : Text) (kind : Option ComponentKind) : Except Issue Component :=
  match r.findExactly name with
  | some c => .ok c
  | none =>
    if name.contains CodePoint.dot then .error (.unresolved name kind)
    else
      match r.candidates name kind with
      | [] => .error (.unresolved name kind)
      | [c] => .ok c
      | several =>
        .error (.ambiguous name ((several.map Component.name).mergeSort Text.before))

/-- The component that a name stands for, if it is clear. -/
def get? (r : Registry) (name : Text) : Option Component :=
  (r.resolve name none).toOption

/-- The components of a kind in order. -/
def byKind (r : Registry) (kind : ComponentKind) : List Component :=
  r.toList.filter (·.kind = kind)

/-- The components of a kind given by its word. -/
def byKindWord (r : Registry) (word : Datum) : Except Failure (List Component) :=
  let kind? :=
    match word with
    | .text t => ComponentKind.ofText? t
    | _ => none
  match kind? with
  | some kind => .ok (r.byKind kind)
  | none => .error (.unknownKind word)

/-- The modules in order. -/
def modules (r : Registry) : List Component :=
  r.byKind .module

end Registry

end Recommender
