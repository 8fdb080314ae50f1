import Recommender.Component.Builtin
import Recommender.Component.Schema
import Recommender.Files.Access
import Recommender.Json.Parser

/-!
Catalogs: JSON files that list components, and registries made from them.
-/
namespace Recommender

namespace Catalog

/-- The rules of catalogs: numbers need not be finite, but texts hold no lone surrogates. -/
def rules : Json.Rules :=
  ⟨true, false⟩

/-- The components that the bytes of a catalog describe. -/
def components (bytes : List UInt8) : Checked (List Component) :=
  match (Utf8.decode bytes).toOption.bind fun t => (Json.whole rules t).toOption with
  | some d => Schema.list (Component.check true) d
  | none => Checked.fault .invalidJson

/-- The components of a catalog file. -/
def read (tree : FileTree) (path : FilePath) : Except Failure (List Component) :=
  match tree.read path with
  | .error fault =>
    .error ((fault.unforeseen? path).getD (.problem (.unreadableCatalog path.text fault)))
  | .ok bytes =>
    match components bytes with
    | .ok found => .ok found
    | .error faults => .error (.problem (.invalidCatalog path.text faults))

end Catalog

namespace Registry

/-- Registers the components of a catalog file. Those before the first that is refused stay. -/
def loadCatalog (r : Registry) (tree : FileTree) (path : FilePath) (replace : Bool)
    : Registry × Except Failure Nat :=
  match Catalog.read tree path with
  | .error failure => (r, .error failure)
  | .ok components =>
    match r.registerAll replace components with
    | (r, none) => (r, .ok components.length)
    | (r, some failure) => (r, .error failure)

/-- The registry of a host: the components that every host knows, and those of a catalog file in
place of them or beside them. A catalog without a name is none. -/
def ofHost (tree : FileTree) (processors : Option Nat) (catalog : Option Text)
    : Except Failure Registry :=
  let known := Builtin.registry processors
  match catalog with
  | some (c :: rest) =>
    match known.loadCatalog tree (FilePath.ofText (c :: rest)) true with
    | (r, .ok _) => .ok r
    | (_, .error failure) => .error failure
  | _ => .ok known

end Registry

end Recommender
