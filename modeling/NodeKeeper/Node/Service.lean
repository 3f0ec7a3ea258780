/-
# The node's service

What the node answers over HTTP.  `/health` tells how its parts are, and a
payload posted to `/bus/` and a subject goes onto the message bus.  The service
itself does not touch the bus: it answers, or says what is to be published and
how the bus's verdict is answered.
-/
import NodeKeeper.Bus.Bus
import NodeKeeper.Health.Report
import NodeKeeper.Http.Status
import NodeKeeper.Message.Subject
import NodeKeeper.Node.Release
import NodeKeeper.Text.Pieces
import NodeKeeper.Url.Percent

namespace NodeKeeper

open Json

/-- A request to the service. -/
structure ServiceRequest where
  method : String
  /-- a path with or without a query, or a whole address -/
  target : String
  body : Payload

/-- An answer of the service.  It may have no body. -/
structure ServiceResponse where
  status : HttpStatus
  body : Option Value

/-- A refusal with its reason. -/
structure ServiceError where
  status : HttpStatus
  message : String
  deriving DecidableEq, Repr

namespace ServiceError

def badRequest (message : String) : ServiceError := ⟨400, message⟩

def notFound (message : String) : ServiceError := ⟨404, message⟩

def internal (message : String) : ServiceError := ⟨500, message⟩

def unavailable (message : String) : ServiceError := ⟨503, message⟩

/-- A refusal by the bus. -/
def ofBus (e : BusError) : ServiceError :=
  match e with
  | .closed => unavailable e.message
  | .encode _ => badRequest e.message
  | .decode _ => badRequest e.message
  | .alreadySubscribed _ => internal e.message
  | .handler _ _ => internal e.message

def toJson (e : ServiceError) : Value :=
  .object [("error", .object [("message", .text e.message), ("status", .integer e.status)])]

def response (e : ServiceError) : ServiceResponse := ⟨e.status, some e.toJson⟩

end ServiceError

/-! ## Places -/

/-- Where a request goes. -/
inductive Place where
  | health
  /-- the bus, under a subject that may contain percent signs -/
  | bus (subject : List Char)
  | elsewhere
  deriving DecidableEq, Repr

namespace Place

/-- What follows `head` in `cs`, if `cs` begins with it. -/
def after? : List Char → List Char → Option (List Char)
  | [], cs => some cs
  | _ :: _, [] => none
  | h :: head, c :: cs => if h = c then after? head cs else none

/-- The path that a request's target names: what comes before a query, and in a
whole address after the authority. -/
def pathOf (target : List Char) : List Char :=
  let path := target.takeWhile fun c => c != '?' && c != '#'
  match path with
  | '/' :: _ => path
  | _ =>
    match after? [':', '/', '/'] (path.dropWhile (· != ':')) with
    | none => path
    | some rest =>
      match rest.dropWhile (· != '/') with
      | [] => ['/']
      | path => path

/-- The place of a path. -/
def ofPath (path : List Char) : Place :=
  if path = "/health".toList then .health
  else
    match after? "/bus/".toList path with
    | none => .elsewhere
    | some subject => if subject.isEmpty || subject.contains '/' then .elsewhere else .bus subject

end Place

/-! ## Answers -/

/-- How the parts of the node are, by the names of their reporters; of two
reporters with one name the later counts. -/
abbrev Health := Dictionary (List HealthReport)

namespace Health

def ofReporters (reporters : List Reporter) : Health :=
  .ofList (reporters.map fun r => (r.name, r.reports))

/-- Does any report tell of an error? -/
def isUnhealthy (h : Health) : Bool :=
  h.entries.any fun (_, reports) => reports.any (·.status == .error)

def toJson (h : Health) (now : Timestamp) : Value :=
  .object
    [("status", .text (if h.isUnhealthy then "unhealthy" else "healthy")),
     ("timestamp", .text now.text),
     ("version", .text Release.version),
     ("components", .object (h.entries.map fun (name, reports) =>
       (name, .array (reports.map HealthReport.toJson))))]

def response (h : Health) (now : Timestamp) : ServiceResponse :=
  ⟨if h.isUnhealthy then 503 else 200, some (h.toJson now)⟩

end Health

namespace Service

/-- The largest body the service takes. -/
def bodyLimit : Nat := 2097152

/-- What the service does with a request. -/
inductive Handling where
  | respond (r : ServiceResponse)
  | publish (subject : String) (payload : Payload)

/-- What becomes of a payload posted under a subject: the bus takes those of
known subjects that are JSON. -/
def take (subject : String) (payload : Payload) : Handling :=
  if bodyLimit < payload.length then .respond ⟨413, none⟩
  else if ¬ Subject.all.contains subject then
    .respond (ServiceError.notFound ("unknown subject '" ++ subject ++ "'")).response
  else
    match Value.read? payload with
    | none => .respond (ServiceError.badRequest "payload is not JSON: ").response
    | some _ => .publish subject payload

/-- What the service does with a request, given the reporters of the node's
parts. -/
def handle (reporters : List Reporter) (now : Timestamp) (q : ServiceRequest) : Handling :=
  match Place.ofPath (Place.pathOf q.target.toList) with
  | .elsewhere => .respond ⟨404, none⟩
  | .health =>
    let r := (Health.ofReporters reporters).response now
    if q.method = "GET" then .respond r
    else if q.method = "HEAD" then .respond { r with body := none }
    else .respond ⟨405, none⟩
  | .bus subject =>
    if q.method ≠ "POST" then .respond ⟨405, none⟩
    else
      let bytes := Url.percentDecode (Url.bytesOf (String.ofList subject))
      match String.fromUTF8? ⟨bytes.toArray⟩ with
      | none => .respond ⟨400, none⟩
      | some subject => take subject q.body

/-- The answer to a publication, by what the bus said to it. -/
def published : Except BusError Unit → ServiceResponse
  | .ok () => ⟨202, none⟩
  | .error e => (ServiceError.ofBus e).response

/-- Answers a request with the bus at hand. -/
def answer {Handler : Type} (reporters : List Reporter) (now : Timestamp) (q : ServiceRequest)
    (b : Bus Handler) : ServiceResponse × Bus Handler :=
  match handle reporters now q with
  | .respond r => (r, b)
  | .publish subject payload => (b.publish subject payload).map published id

/-- The service shown for diagnostics, by the names of its reporters. -/
def shown (reporters : List String) : String :=
  Text.shownRecord "AppState" [("reporters", Text.shownList (reporters.map Text.quoted))]

end Service

end NodeKeeper
