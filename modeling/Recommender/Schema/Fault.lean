import Recommender.Text.Basic

/-!
What can be wrong with the description of a component, a parameter or a request. A fault names the
place by the field names and positions that lead to it.
-/
namespace Recommender

/-- What is wrong with a field. A refusal carries the words of the rule that was broken. -/
inductive SchemaReason where
  | missing
  | notText
  | notUnicode
  | notNamed
  | notNumber
  | unreadableNumber
  | notList
  | notModel
  | notAttributes
  | notBool
  | unreadableBool
  | invalidJson
  | refused (reason : Text)
deriving DecidableEq

/-- A fault with its place. -/
structure SchemaFault where
  reason : SchemaReason
  location : List Text
deriving DecidableEq

namespace SchemaReason

/-- The name of what is wrong. -/
def label : SchemaReason → Text
  | .missing => "missing"
  | .notText => "string_type"
  | .notUnicode => "string_unicode"
  | .notNamed => "enum"
  | .notNumber => "float_type"
  | .unreadableNumber => "float_parsing"
  | .notList => "list_type"
  | .notModel => "model_type"
  | .notAttributes => "model_attributes_type"
  | .notBool => "bool_type"
  | .unreadableBool => "bool_parsing"
  | .invalidJson => "json_invalid"
  | .refused _ => "value_error"

/-- The wording of a refusal; the other reasons speak for themselves. -/
def message? : SchemaReason → Option Text
  | .refused reason => some ("Value error, " ++ reason)
  | _ => none

end SchemaReason

/-- A fault seen from one level further up. -/
def SchemaFault.under (step : Text) (fault : SchemaFault) : SchemaFault :=
  { fault with location := step :: fault.location }

end Recommender
