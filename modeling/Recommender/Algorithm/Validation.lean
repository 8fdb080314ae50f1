import Recommender.Algorithm.Coercion
import Recommender.Notice

/-!
Validating the overrides of a module: every override is examined, and all issues are gathered. A
path that the module does not declare is an issue when validation is strict and is passed through
with a notice otherwise.
-/
namespace Recommender

/-- What examining overrides found: the values to keep, the issues, the notices, and the failure
that cut the examination short if one did. -/
structure Findings (κ β : Type) where
  kept : List (κ × β)
  issues : List Issue
  notices : List Notice
  failure : Option Failure

/-- How keys and values of overrides are seen: the path a key is, the datum a value is, and the value
that stands for a coerced one. -/
structure OverrideView (κ β : Type) where
  path : κ → Text
  datum : β → Datum
  value : Value → β

/-- Overrides from a record. -/
def OverrideView.record : OverrideView Path Value :=
  ⟨Path.text, Value.toDatum, id⟩

/-- Overrides given from outside. -/
def OverrideView.outside : OverrideView Text Datum :=
  ⟨id, id, Value.toDatum⟩

namespace Validation

variable {κ β : Type}

/-- Examines overrides one after the other. -/
def examine (view : OverrideView κ β) (registry : Registry) (module : Component) (strict : Bool)
    : List (κ × β) → Findings κ β
  | [] => ⟨[], [], [], none⟩
  | (key, given) :: rest =>
    let others := examine view registry module strict rest
    let path := view.path key
    match module.parameter? path with
    | none =>
      if strict then
        let issue := Issue.unknownPath ("module." ++ path) (some module.name)
        { others with issues := issue :: others.issues }
      else
        { others with
          kept := (key, given) :: others.kept
          notices := .passedThrough path module.name :: others.notices }
    | some p =>
      match p.coerce registry (view.datum given) with
      | .ok value => { others with kept := (key, view.value value) :: others.kept }
      | .error (.issue single) => { others with issues := single :: others.issues }
      | .error .incomparable => ⟨[], [], [], some .incomparable⟩

/-- The validated overrides, or everything that is wrong with them. -/
def validate (view : OverrideView κ β) (registry : Registry) (module : Component) (strict : Bool)
    (source : Option Text) (overrides : List (κ × β))
    : Logged (List (κ × β)) :=
  let findings := examine view registry module strict overrides
  match findings.failure, findings.issues with
  | some failure, _ => ⟨findings.notices, .error failure⟩
  | none, [] => ⟨findings.notices, .ok findings.kept⟩
  | none, issues => ⟨findings.notices, .error (.problem (.invalid issues source))⟩

end Validation

end Recommender
