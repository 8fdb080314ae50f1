import Recommender.Json.Printer
import Recommender.Json.Sending
import Recommender.Problem

/-!
Replies to requests. A reply is sent as JSON, which has neither surrogates nor numbers that are not
finite. The replies of declared forms are written text by text, so a surrogate is found at its place
in a text; all others are written as a whole first, so it is found at its place in the whole.
-/
namespace Recommender

/-- A reply: data with a status, or the refusal of a request for what is wrong with it. -/
inductive Reply where
  | data (status : Nat) (body : Datum)
  | refused (faults : List SchemaFault)

namespace Reply

/-- A reply in one sentence. -/
def detail (status : Nat) (t : Text) : Reply :=
  .data status (.map [("detail", .text t)])

/-- Data that can be sent; surrogates have no encoding. -/
def encodable (d : Datum) : Except Failure Unit :=
  match Utf8.encode (Json.compact d) with
  | .ok _ => .ok ()
  | .error fault => .error (.unencodable fault)

/-- A reply with data that can be sent. -/
def sendable (status : Nat) (body : Datum) : Except Failure Reply := do
  encodable body
  return .data status body

/-- A reply of a declared form, which is written text by text. Numbers that are not finite are
missing in it. -/
def declared (body : Datum) : Except Failure Reply :=
  match body.surrogates? with
  | some fault => .error (.unserializable fault)
  | none => .ok (.data 200 body.finite)

/-- The reply to a request that led to a problem. -/
def problem (p : Problem) : Except Failure Reply :=
  sendable 422 (.map [("error", .text p.label), ("errors", .list (p.parts.map .text))])

/-- The wording of what is wrong with a field of a request. -/
def wording : SchemaReason → Text
  | .missing => "Field required"
  | .notText => "Input should be a valid string"
  | .notUnicode => "Input should be a valid string, unable to parse raw data as a unicode string"
  | .notBool => "Input should be a valid boolean"
  | .unreadableBool => "Input should be a valid boolean, unable to interpret input"
  | .notAttributes => "Input should be a valid dictionary or object to extract fields from"
  | reason => reason.message?.getD []

/-- What a fault is about in the body of a request: a field, or all of it. -/
def subject (body : Datum) (fault : SchemaFault) : Datum :=
  match fault.reason, body with
  | .missing, _ => body
  | _, .map entries => (entries.lookup (fault.location.getLastD [])).getD body
  | _, _ => body

/-- A fault in the body of a request as plain data. -/
def faultData (body : Datum) (fault : SchemaFault) : Datum :=
  let context : List (Text × Datum) :=
    match fault.reason with
    | .refused _ => [("ctx", .map [("error", .map [])])]
    | _ => []
  let fields : List (Text × Datum) :=
    [("type", .text fault.reason.label), ("loc", .list (fault.location.map .text)),
      ("msg", .text (wording fault.reason)), ("input", subject body fault)]
  .map (fields ++ context)

/-- The refusal of the body of a request. It repeats the body, which it has to be able to send. -/
def refusal (faults : List SchemaFault) (body : Datum) : Except Failure Reply := do
  if body.holds Datum.isNonFinite then throw .notFinite
  encodable (.map [("detail", .list (faults.map (faultData body))), ("body", body)])
  return .refused faults

end Reply

end Recommender
