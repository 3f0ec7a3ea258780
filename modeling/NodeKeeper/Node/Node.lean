/-
# The node

Puts the parts together.  A node starts the shared containers, subscribes its
supervisor and its inspector to their messages, opens its service, and then
handles messages until it is told to end.  However it ends, once the shared
containers are up it stops every container that is recorded.
-/
import NodeKeeper.Bus.Bus
import NodeKeeper.Config.Config
import NodeKeeper.Fleet.Messages
import NodeKeeper.Fleet.Shown
import NodeKeeper.Inspection.Inspector

namespace NodeKeeper

/-- What the node asks of its surroundings. -/
inductive NodeRequest where
  | fleet (r : FleetRequest)
  /-- opens the service at an address; a failure comes with its reason -/
  | listen (address : String)

def NodeRequest.Answer : NodeRequest → Type
  | .fleet r => r.Answer
  | .listen _ => Except String Unit

abbrev NodeDialogue (α : Type) : Type := Dialogue NodeRequest NodeRequest.Answer α

/-- Why a node could not start. -/
inductive NodeError where
  | infrastructure (cause : FleetError)
  | handlers (cause : BusError)
  | inspector (cause : Failure)
  | listen (address reason : String)

namespace NodeError

def message : NodeError → String
  | .infrastructure _ => "failed to start infrastructure containers"
  | .handlers _ => "failed to subscribe fleet handlers"
  | .inspector _ => "failed to start inspection scheduler"
  | .listen address _ => "failed to bind health server to " ++ address

/-- The text of what lies behind the error. -/
def cause : NodeError → String
  | .infrastructure cause => cause.message
  | .handlers cause => cause.message
  | .inspector cause => cause.message
  | .listen _ reason => reason

end NodeError

/-- Whose handler a subject has. -/
inductive Recipient where
  | supervisor
  | inspector
  deriving DecidableEq, Repr

/-- A node whose parts are up. -/
structure Node where
  supervisor : Supervisor
  table : FleetTable
  inspector : Inspector
  bus : Bus Recipient

/-- A message that reaches the node at some time. -/
structure NodeMessage where
  subject : String
  payload : Payload
  at_ : Instant

/-- How a node ended, and whether it had been told to end. -/
structure NodeEnd where
  result : Except NodeError Unit
  told : Bool

namespace Node

/-- A dialogue of the fleet as one of the node. -/
def ofFleet {α : Type} (d : FleetDialogue α) : NodeDialogue α :=
  d.meet fun r => Dialogue.request (NodeRequest.fleet r)

/-- Subscribes the supervisor to its subjects, up to the first failure. -/
def subscribeSupervisor (b : Bus Recipient) : List String → Except BusError (Bus Recipient)
  | [] => .ok b
  | subject :: rest =>
    match b.subscribe subject .supervisor with
    | (.ok (), b) => subscribeSupervisor b rest
    | (.error e, _) => .error e

/-- Starts the inspector; a disabled one is not subscribed to anything. -/
def startInspector (s : InspectionSettings) (b : Bus Recipient) :
    Except Failure (Inspector × Bus Recipient) :=
  let (subscribed, subscribedBus) := b.subscribe Subject.scannerBlock .inspector
  match (Inspector.idle s).start subscribed with
  | (.error e, _) => .error e
  | (.ok true, i) => .ok (i, subscribedBus)
  | (.ok false, i) => .ok (i, b)

/-- The parts that need no surroundings to start.  They fail on a bus that is
closed already. -/
def assemble (c : Config) (supervisor : Supervisor) (table : FleetTable) (b : Bus Recipient) :
    Except NodeError Node :=
  match subscribeSupervisor b Supervisor.subjects with
  | .error e => .error (.handlers e)
  | .ok b =>
    match startInspector c.inspectionSettings b with
    | .error e => .error (.inspector e)
    | .ok (inspector, b) => .ok ⟨supervisor, table, inspector, b⟩

/-- Handles a message.  One that cannot be read, or is for nobody, changes
nothing. -/
def handle (n : Node) (m : NodeMessage) : NodeDialogue Node :=
  match n.bus.handler? m.subject with
  | some .supervisor =>
    match Supervisor.requestOf? m.subject m.payload with
    | some request => do
      let (_, table) ← ofFleet (n.supervisor.serve request n.table)
      pure { n with table := table }
    | none => pure n
  | some .inspector => pure { n with inspector := (n.inspector.heedMessage m.at_ m.payload).2 }
  | none => pure n

/-- The reporters of the node's parts, with the count that the fleet shows. -/
def reporters (n : Node) (count : Nat) (now : Timestamp) : List Reporter :=
  [Supervisor.health count now, n.inspector.health]

/-- Handles messages one after the other. -/
def handleAll (n : Node) : List NodeMessage → NodeDialogue Node
  | [] => pure n
  | m :: rest => do (← n.handle m).handleAll rest

/-- Stops the recorded containers. -/
def stop (table : FleetTable) : NodeDialogue Unit := do
  let _ ← ofFleet (Supervisor.shutdown table)

/-- Starts a node whose bus is closed from the start if it has been told to end
already.  If anything fails after the shared containers are up they are stopped
again. -/
def start (c : Config) (told : Bool) : NodeDialogue (Except NodeEnd Node) := do
  match ← ofFleet (Supervisor.launch c.fleet.policy c.fleet.infrastructure) with
  | .error e => pure (.error ⟨.error (.infrastructure e), told⟩)
  | .ok (supervisor, table) =>
    match assemble c supervisor table ⟨.empty, told, true⟩ with
    | .error e =>
      stop table
      pure (.error ⟨.error e, true⟩)
    | .ok n =>
      match ← Dialogue.request (NodeRequest.listen c.serverAddress) with
      | .error reason =>
        stop table
        pure (.error ⟨.error (.listen c.serverAddress reason), true⟩)
      | .ok () => pure (.ok n)

/-- The whole life of a node that handles some messages before it is told to
end. -/
def run (c : Config) (told : Bool) (messages : List NodeMessage) : NodeDialogue NodeEnd := do
  match ← start c told with
  | .error e => pure e
  | .ok n =>
    let n ← n.handleAll messages
    stop n.table
    pure ⟨.ok (), true⟩

end Node

end NodeKeeper
