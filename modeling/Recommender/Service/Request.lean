import Recommender.Schema.Check
import Recommender.Text.Blank

/-!
Requests to configure an algorithm, and the check that data describe one.
-/
namespace Recommender

/-- A request to configure an algorithm from a script. The name is used when the script gives
none. -/
structure ParseRequest where
  script : Text
  name : Option Text
  strict : Bool
deriving DecidableEq

namespace ParseRequest

/-- A script with content. -/
def scriptText (d : Datum) : Checked Text := do
  let t ← Schema.text d
  if t.isBlank then Checked.fault (.refused "script is required and cannot be empty") else return t

/-- The request that data describe. Fields without a meaning are passed over. -/
def check : Datum → Checked ParseRequest
  | .map entries =>
    let script := Schema.required entries "script" scriptText
    let name := Schema.optional entries "name" none (Schema.nullable Schema.text)
    let strict := Schema.optional entries "strict" true Schema.bool
    (script.and (name.and strict)).map fun (script, name, strict) => ⟨script, name, strict⟩
  | _ => Checked.fault .notAttributes

end ParseRequest

end Recommender
