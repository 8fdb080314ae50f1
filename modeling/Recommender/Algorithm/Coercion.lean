import Recommender.Component.Registry
import Recommender.Schema.Check

/-!
Converting a given value to the type of a parameter. Numbers are never made from texts or truth
values; a component parameter takes a reference to a component of its kind and yields the full name.
-/
namespace Recommender

/-- Why a value is refused: an issue, or a bound that its type cannot be compared with. -/
inductive Rejection where
  | issue (single : Issue)
  | incomparable

namespace Parameter

/-- The path of a parameter in a record. -/
def recordPath (p : Parameter) : Text :=
  "module." ++ p.path.text

/-- The refusal of a value that does not fit. -/
def refuse {α : Type} (p : Parameter) (expected : Expectation) (value : Datum)
    : Except Rejection α :=
  .error (.issue (.mismatch p.recordPath expected value))

/-- The reference to the component that a value stands for. -/
def coerceComponent (registry : Registry) (p : Parameter) (kind : ComponentKind)
    : Datum → Except Rejection Value
  | .reference r =>
    match registry.resolve r.name (some kind) with
    | .error issue => .error (.issue issue)
    | .ok c =>
      if c.kind = kind then .ok (.reference c.reference)
      else p.refuse (.component kind) (.text r.name)
  | d => p.refuse (.component kind) d

/-- The integer that a number is. -/
def coerceInt? : Datum → Option Int
  | .int n => some n
  | .float x => Schema.smallInt? x
  | _ => none

/-- The floating point number nearest to a number, unless it is too large an integer. -/
def coerceDouble? : Datum → Option Double
  | .int n =>
    match Double.ofInt n with
    | .finite x => some (.finite x)
    | _ => none
  | .float x => some x
  | _ => none

/-- The scalar that a value gives, bounds aside. -/
def coerceScalar (p : Parameter) (kind : ScalarKind) (d : Datum) : Except Rejection Value :=
  let refuse := p.refuse (.scalar kind) d
  match kind with
  | .int => (coerceInt? d).elim refuse fun n => .ok (.int n)
  | .float =>
    match coerceDouble? d with
    | none => refuse
    | some (.finite x) => .ok (.float x)
    | some _ => p.refuse .finiteNumber d
  | .bool =>
    match Schema.bool d with
    | .ok b => .ok (.bool b)
    | .error _ => refuse
  | .str =>
    match d with
    | .text t => .ok (.text t)
    | _ => refuse

/-- Whether a value lies below a bound; texts and references have no order with numbers. -/
def isBelow? (bound : Double) : Value → Option Bool
  | .int n => some (Double.intLess n bound)
  | .bool b => some (Double.intLess (if b then 1 else 0) bound)
  | .float x => some (Double.less (.finite x) bound)
  | .text _ => none
  | .reference _ => none

/-- A scalar that is not below the bound of its parameter. -/
def checkBound (p : Parameter) (kind : ScalarKind) (d : Datum) (value : Value)
    : Except Rejection Value :=
  match p.minimum with
  | none => .ok value
  | some bound =>
    match isBelow? bound value with
    | none => .error .incomparable
    | some true => p.refuse (.atLeast kind bound) d
    | some false => .ok value

/-- The value of a parameter that a given value yields. -/
def coerce (registry : Registry) (p : Parameter) (d : Datum) : Except Rejection Value :=
  match p.type, d with
  | .component kind, d => coerceComponent registry p kind d
  | .scalar kind, .reference r => p.refuse (.scalar kind) (.text r.name)
  | .scalar kind, d => do p.checkBound kind d (← p.coerceScalar kind d)

end Parameter

/-- A refusal as a failure. -/
def Rejection.failure : Rejection → Failure
  | .issue single => .problem (.issue single)
  | .incomparable => .incomparable

end Recommender
