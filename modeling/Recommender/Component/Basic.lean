import Recommender.Problem
import Recommender.Table

/-!
Components of the recommender, and the parameters that a module declares with their types, bounds
and defaults.
-/
namespace Recommender

/-- A parameter of a module. Its path is relative to the module. A default is given as it was
described, whatever its shape. -/
structure Parameter where
  path : Path
  type : ParameterType
  default : Datum
  minimum : Option Double
  description : Text

/-- A component. Only modules declare parameters, and no two at one path. -/
structure Component where
  reference : Reference
  kind : ComponentKind
  aliases : List Text
  description : Text
  parameters : List Parameter
  declaring : parameters = [] ∨ kind = .module
  distinct : (parameters.map Parameter.path).Nodup

namespace Parameter

/-- The default as a record would hold it: for a component parameter a reference. -/
def defaultValue (p : Parameter) : Except Failure Datum :=
  match p.default, p.type with
  | .missing, _ => .ok .missing
  | d, .component _ => (Reference.ofDatum d).map .reference
  | d, .scalar _ => .ok d

/-- Whether a parameter has a default. -/
def hasDefault (p : Parameter) : Bool :=
  match p.default with
  | .missing => false
  | _ => true

end Parameter

namespace Component

/-- The full name of a component. -/
def name (c : Component) : Text :=
  c.reference.name

/-- The name of a component without its package. -/
def shortName (c : Component) : Text :=
  c.reference.shortName

/-- The first alias, or the short name if there is none. -/
def displayName (c : Component) : Text :=
  c.aliases.headD c.shortName

/-- The parameter at a path. -/
def parameter? (c : Component) (path : Text) : Option Parameter :=
  c.parameters.find? (·.path.text = path)

/-- The defaults of those parameters that have one, in the order of declaration. -/
def defaults (c : Component) : Except Failure (Table Path Datum) := do
  let entries ← (c.parameters.filter Parameter.hasDefault).mapM fun p => do
    return (p.path, ← p.defaultValue)
  return Table.ofList entries

end Component

end Recommender
