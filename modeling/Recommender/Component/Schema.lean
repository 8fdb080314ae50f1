import Recommender.Component.Basic
import Recommender.Schema.Check

/-!
Descriptions of components and parameters as data, checked field by field. The rules that concern
several fields are checked when each field is in order.
-/
namespace Recommender

/-- The type that the word of a parameter stands for, with the kind of component still open. -/
def scalarOrComponent? (t : Text) : Option (Option ScalarKind) :=
  if t = ParameterType.componentWord then some none else (ScalarKind.ofText? t).map some

namespace Parameter

/-- The path of a parameter. -/
def checkPath (d : Datum) : Checked Path := do
  let t ← Schema.text d
  match Path.ofText? t with
  | some path => .ok path
  | none => Checked.fault (.refused ("Invalid parameter path: " ++ Text.shown t))

/-- The type of a parameter: a component parameter needs a kind of component, a scalar one cannot
have one. -/
def checkType (path : Path) (scalar : Option ScalarKind) (kind : Option ComponentKind)
    : Checked ParameterType :=
  match scalar, kind with
  | some scalar, none => .ok (.scalar scalar)
  | none, some kind => .ok (.component kind)
  | none, none =>
    Checked.fault (.refused ("Component parameter " ++ path.text ++ " needs a component_kind"))
  | some _, some _ =>
    Checked.fault
      (.refused ("Scalar parameter " ++ path.text ++ " cannot have a component_kind"))

/-- The parameter that a datum describes. `limited` says that bounds beyond 64 bits are refused. -/
def check (limited : Bool) : Datum → Checked Parameter
  | .map entries => do
    let path := Schema.required entries "path" checkPath
    let scalar := Schema.required entries "kind" (Schema.word scalarOrComponent?)
    let default := Schema.optional entries "default" Datum.missing .ok
    let kind :=
      Schema.optional entries "component_kind" none
        (Schema.nullable (Schema.word ComponentKind.ofText?))
    let minimum :=
      Schema.optional entries "minimum" none (Schema.nullable (Schema.double limited))
    let description := Schema.optional entries "description" [] Schema.text
    let (path, scalar, default, kind, minimum, description) ←
      path.and (scalar.and (default.and (kind.and (minimum.and description))))
    let type ← checkType path scalar kind
    return ⟨path, type, default, minimum, description⟩
  | _ => Checked.fault .notModel

end Parameter

namespace Component

/-- The name of a component. -/
def checkName (d : Datum) : Checked Reference := do
  let t ← Schema.text d
  match Reference.ofText? t with
  | some reference => .ok reference
  | none => Checked.fault (.refused ("Invalid component name: " ++ Text.shown t))

/-- The first parameter whose path an earlier one has. -/
def firstDuplicate? (earlier : List Path) : List Parameter → Option Parameter
  | [] => none
  | p :: rest => if p.path ∈ earlier then some p else firstDuplicate? (p.path :: earlier) rest

/-- The component with checked fields, if the fields go together. -/
def checkWhole (reference : Reference) (kind : ComponentKind) (aliases : List Text)
    (description : Text) (parameters : List Parameter)
    : Checked Component :=
  if declaring : parameters = [] ∨ kind = .module then
    if distinct : (parameters.map Parameter.path).Nodup then
      .ok ⟨reference, kind, aliases, description, parameters, declaring, distinct⟩
    else
      let duplicate := (firstDuplicate? [] parameters).elim [] (·.path.text)
      Checked.fault
        (.refused ("Duplicate parameter " ++ duplicate ++ " on " ++ reference.name))
  else
    Checked.fault (.refused ("Only modules declare parameters (" ++ reference.name ++ ")"))

/-- The component that a datum describes. `limited` says that bounds beyond 64 bits are refused. -/
def check (limited : Bool) : Datum → Checked Component
  | .map entries => do
    let reference := Schema.required entries "name" checkName
    let kind := Schema.required entries "kind" (Schema.word ComponentKind.ofText?)
    let aliases := Schema.optional entries "aliases" [] (Schema.list Schema.text)
    let description := Schema.optional entries "description" [] Schema.text
    let parameters :=
      Schema.optional entries "parameters" [] (Schema.list (Parameter.check limited))
    let (reference, kind, aliases, description, parameters) ←
      reference.and (kind.and (aliases.and (description.and parameters)))
    checkWhole reference kind aliases description parameters
  | _ => Checked.fault .notModel

end Component

end Recommender
