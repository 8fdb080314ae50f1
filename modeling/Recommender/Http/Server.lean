import Recommender.Http.Reply
import Recommender.Http.Target
import Recommender.Json.Parser
import Recommender.Service.Basic
import Recommender.Service.Request

/-!
The server: it answers requests with the components, the listed algorithms, one of them, or the
algorithm that a script in the body configures. The service behind it starts when it is first
needed and stays.
-/
namespace Recommender

/-- A request. -/
structure Request where
  method : Text
  target : Text
  body : Option Text

/-- The methods of requests; all but two are of no use here. -/
inductive Method where
  | get
  | post
  | other
deriving DecidableEq

/-- What requests lead to. -/
inductive Route where
  | health
  | components
  | algorithms
  | algorithm (name : Text)
  | parse

/-- Where a request ends up: at a route, at a path of other methods, or nowhere. -/
inductive Destination where
  | route (r : Route)
  | otherMethod
  | nowhere

/-- A server with the surroundings of its service. -/
structure Server where
  tree : FileTree
  environment : Environment
  processors : Option Nat
  service : Option Service

/-- The method of a name in any case. -/
def Method.ofText (t : Text) : Method :=
  let name := t.map CodePoint.asciiLower
  if name = "get" then .get else if name = "post" then .post else .other

namespace Route

/-- The routes at fixed paths. -/
def fixed : List (Text × Method × Route) :=
  [("/", .get, .health), ("/components", .get, .components), ("/algorithms", .get, .algorithms),
    ("/algorithms/parse", .post, .parse)]

/-- What stands before the name of an algorithm. -/
def algorithmLead : Text := "/algorithms/"

/-- Whether a path is a fixed one; a line feed at its end is passed over. -/
def isAt (fixedPath path : Text) : Bool :=
  path = fixedPath || path = fixedPath ++ "\n"

/-- The name of an algorithm in a path: the last part, right below the algorithms. -/
def algorithmName? (path : Text) : Option Text :=
  (Text.dropLead? algorithmLead path).filter fun name =>
    !name.isEmpty && !name.contains CodePoint.slash

/-- The routes of a path with their methods. -/
def allAt (path : Text) : List (Method × Route) :=
  (fixed.filter (isAt ·.1 path)).map (·.2)
    ++ ((algorithmName? path).map fun name => (Method.get, Route.algorithm name)).toList

end Route

namespace Destination

/-- Where a request ends up. A path that leads nowhere is tried again without slashes at its end,
as often as `attempts` allow. -/
def of (method : Method) (attempts : Nat) (target : Text) : Target × Destination :=
  let here := Target.ofText target
  match Route.allAt here.path with
  | [] =>
    match attempts with
    | 0 => (here, .nowhere)
    | attempts + 1 =>
      if here.path.endsWith "/" && !(Route.allAt here.pathWithoutTrailingSlashes).isEmpty then
        of method attempts here.withoutTrailingSlashes
      else (here, .nowhere)
  | routes =>
    match routes.lookup method with
    | some found => (here, .route found)
    | none => (here, .otherMethod)

end Destination

namespace Server

/-- How often a request is tried at another path. -/
def maxAttempts : Nat := 20

/-- Works with the service, which is started if there is none, and finishes with what it found. The
service stays as it is after the work, whether or not finishing fails. -/
def withService {α β : Type} (server : Server) (work : Service → Logged (Service × α))
    (finish : Service → α → Except Failure β)
    : Server × Logged β :=
  let started : Logged Service :=
    match server.service with
    | some s => pure s
    | none => Service.start server.tree server.environment server.processors Choices.none
  match started.outcome with
  | .error failure => (server, ⟨started.notices, .error failure⟩)
  | .ok s =>
    let worked := work s
    let notices := started.notices ++ worked.notices
    match worked.outcome with
    | .error failure => ({ server with service := some s }, ⟨notices, .error failure⟩)
    | .ok (s, a) => ({ server with service := some s }, ⟨notices, finish s a⟩)

/-- Starts the service and reads its search directories. -/
def start (server : Server) : Server × Logged Unit :=
  let (server, listed) := server.withService (·.list server.tree) fun _ _ => .ok ()
  match listed.outcome with
  | .ok _ => (server, listed)
  | .error failure =>
    (server, ⟨listed.notices ++ [.startFailed failure], .error failure⟩)

/-- The refusal of a request. -/
def refuse (faults : List SchemaFault) (body : Datum) : Logged Reply :=
  ⟨[.badRequest], Reply.refusal faults body⟩

/-- The reply with the algorithms that a service responds with. -/
def responses (s : Service) (found : List Algorithm) : Except Failure Reply := do
  let bodies ← found.mapM s.response
  Reply.declared (.map [("algorithms", .list bodies)])

/-- The reply with one algorithm. -/
def response (s : Service) (a : Algorithm) : Except Failure Reply := do
  Reply.declared (← s.response a)

/-- Lists the components of a kind, or all of them. -/
def components (server : Server) (target : Target) : Server × Logged Reply :=
  let kind := target.parameter? "kind"
  if kind.any fun word => (ComponentKind.ofText? word).isNone then
    (server, refuse [⟨.notNamed, ["query", "kind"]⟩] .missing)
  else
    server.withService (fun s => pure (s, ())) fun s _ => do
      let found ← s.components kind
      Reply.declared (.list (found.map fun c => c.response))

/-- Finds an algorithm by name. -/
def algorithm (server : Server) (name : Text) : Server × Logged Reply :=
  server.withService (·.find server.tree name) fun s found =>
    match found with
    | some a => response s a
    | none => .ok (Reply.detail 404 ("No algorithm named " ++ name))

/-- The rules for bodies of requests. -/
def bodyRules : Json.Rules :=
  ⟨true, true⟩

/-- A text without a byte order mark at its beginning. -/
def withoutMark (t : Text) : Text :=
  match t with
  | CodePoint.byteOrderMark :: rest => rest
  | t => t

/-- Answers a request to configure an algorithm. -/
def configure (server : Server) (request : ParseRequest) : Server × Logged Reply :=
  server.withService
    (fun s => do return (s, ← s.configure request.script request.name request.strict)) response

/-- Answers a body that should describe a request to configure an algorithm. -/
def parse (server : Server) (body : Option Text) : Server × Logged Reply :=
  match Settings.nonEmpty? body with
  | none => (server, refuse [⟨.missing, ["body"]⟩] .missing)
  | some body =>
    let t := withoutMark body
    match Json.whole bodyRules t with
    | .error (.fault reason rest) =>
      let offset := (Json.faultOf t reason rest).offset
      (server, refuse [⟨.invalidJson, ["body", Text.ofNat offset]⟩] (.text t))
    | .error _ => (server, pure (Reply.detail 400 "There was an error parsing the body"))
    | .ok d =>
      match (ParseRequest.check d).under "body" with
      | .error faults => (server, refuse faults d)
      | .ok request => server.configure request

/-- Answers a request at a route. -/
def answerAt (server : Server) (target : Target) (request : Request)
    : Route → Server × Logged Reply
  | .health =>
    (server, pure (.data 200
      (.map [("status", .text "ok"), ("message", .text "Configuration service is running")])))
  | .components => server.components target
  | .algorithms => server.withService (·.list server.tree) responses
  | .algorithm name => server.algorithm name
  | .parse => server.parse request.body

/-- A result in which a problem is answered, if the answer can be sent. -/
def answering (logged : Logged Reply) : Logged Reply :=
  match logged.outcome with
  | .error (.problem p) => ⟨logged.notices ++ [.problem p], Reply.problem p⟩
  | _ => logged

/-- Answers a request. -/
def answer (server : Server) (request : Request) : Server × Logged Reply :=
  let (target, destination) :=
    Destination.of (Method.ofText request.method) maxAttempts request.target
  match destination with
  | .nowhere => (server, pure (Reply.detail 404 "Not Found"))
  | .otherMethod => (server, pure (Reply.detail 405 "Method Not Allowed"))
  | .route route =>
    let (server, logged) := server.answerAt target request route
    (server, answering logged)

end Server

end Recommender
