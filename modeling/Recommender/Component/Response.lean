import Recommender.Component.Basic

/-!
Components as plain data, the way the service answers with them.
-/
namespace Recommender

/-- A parameter as plain data. -/
def Parameter.response (p : Parameter) : Datum :=
  .map [("path", .text p.path.text), ("kind", .text p.type.text), ("default", p.default),
    ("component_kind", p.type.componentKind?.elim .missing fun kind => .text kind.text),
    ("description", .text p.description)]

/-- A component as plain data. -/
def Component.response (c : Component) : Datum :=
  .map [("name", .text c.name), ("kind", .text c.kind.text),
    ("aliases", .list (c.aliases.map .text)), ("description", .text c.description),
    ("parameters", .list (c.parameters.map Parameter.response))]

end Recommender
