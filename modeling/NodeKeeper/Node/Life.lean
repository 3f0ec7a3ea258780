/-
# The life of a node

A node is several tasks at the same time.  The main task starts the parts, one
after the other, serves until it is told to end, and tears the node down again.
Beside it each subject has a dispatcher, which hands messages to a handler, and
each handler of the supervisor makes a request, which has to wait for the table.
Messages may come at any time, and the node may be told to end at any time.

A step of the life is what one task does between two points at which it waits;
any order of steps is a possible life.

    launching        the shared containers are started; there is nothing else yet
    up               all tasks; `MainTask` says where the main task stands
    failed           the shared containers could not be started

**Teardown.**  Whether a part cannot be started, the service cannot be opened,
or the service ends: the bus is closed, the handlers at work are waited for, and
a request to stop all containers is made.  Waiting has a limit, so handlers may
still be at work when it is over.  A handler asks for the table first thing, so
by then it has asked.

The worker and the watchdog of the inspector have no part in this: they ask
nothing of the engine.
-/
import NodeKeeper.Node.Node

namespace NodeKeeper

/-- What the node needs beside its own parts. -/
inductive Facility where
  /-- the client the inspector asks the chain with -/
  | chainClient
  /-- the client the inspections are made with -/
  | routine
  /-- the open service -/
  | server
  deriving DecidableEq, Repr

/-- Why a life ended in failure. -/
inductive LifeError where
  | node (cause : NodeError)
  | facility (what : Facility) (reason : String)

def LifeError.message : LifeError → String
  | .node cause => cause.message
  | .facility .chainClient _ => "failed to build chain rpc client"
  | .facility .routine _ => "failed to build inspection routine"
  | .facility .server _ => "health server failed"

/-- How a life ended, and whether the node had been told to end. -/
structure LifeEnd where
  result : Except LifeError Unit
  told : Bool

/-- Where the main task stands once the shared containers are up. -/
inductive MainTask where
  /-- subscribes the supervisor to the subjects that are left -/
  | subscribing (left : List String)
  /-- builds the facilities that are left -/
  | building (left : List Facility)
  | startingInspector
  /-- opens the service -/
  | opening
  | serving
  /-- tears down; the result is settled -/
  | closing (result : Except LifeError Unit)
  /-- waits for the handlers at work -/
  | joining (result : Except LifeError Unit)
  /-- waits for a request of its own, the one to stop all containers -/
  | stopping (request : Nat) (result : Except LifeError Unit)
  | ended (result : Except LifeError Unit)

/-- A node whose shared containers are up. -/
structure LiveNode where
  config : Config
  supervisor : Supervisor
  session : Session
  bus : Bus Recipient
  inspector : Inspector
  /-- the requests of the handlers at work, by subject -/
  handling : List (String × Nat)
  main : MainTask

inductive NodeLife where
  | launching (c : Config) (told : Bool)
      (rest : FleetDialogue (Except FleetError (Supervisor × FleetTable)))
  | up (n : LiveNode)
  | failed (told : Bool) (cause : FleetError)

/-- What may happen next in a life. -/
inductive NodeMove where
  /-- the node is told to end -/
  | tell
  /-- somebody publishes a payload -/
  | post (subject : String) (payload : Payload)
  /-- the dispatcher of a subject looks for a payload -/
  | dispatch (subject : String) (now : Instant)
  /-- request `i` makes a step -/
  | act (i : Nat)
  /-- the handler of a subject returns if its request has finished -/
  | settle (subject : String)
  /-- the main task makes a step -/
  | main
  /-- the facility that the main task builds or uses fails -/
  | fail (reason : String)

namespace LiveNode

/-- The node as it is when the shared containers have just come up. -/
def enter (c : Config) (told : Bool) (s : Supervisor) (table : FleetTable) : LiveNode where
  config := c
  supervisor := s
  session := .start table []
  bus := ⟨.empty, told, true⟩
  inspector := .idle c.inspectionSettings
  handling := []
  main := .subscribing Supervisor.subjects

/-- A dialogue of requests to the supervisor as one of the node. -/
def ofSession {α : Type} (d : SessionDialogue α) : NodeDialogue α :=
  d.meet fun (r : SessionRequest) => Dialogue.request (NodeRequest.fleet r.request)

/-- A handler begins.  One whose payload cannot be read returns at once. -/
def deliver (n : LiveNode) (subject : String) (now : Instant) :
    Recipient → Payload → LiveNode
  | .supervisor, payload =>
    match Supervisor.requestOf? subject payload with
    | some request =>
      { n with
        session := n.session.arrive request
        handling := (subject, n.session.turns.length) :: n.handling }
    | none => { n with bus := n.bus.finish subject }
  | .inspector, payload =>
    { n with
      inspector := (n.inspector.heedMessage now payload).2
      bus := n.bus.finish subject }

def dispatch (n : LiveNode) (subject : String) (now : Instant) : LiveNode :=
  match n.bus.dispatch subject with
  | (some (recipient, payload), bus) => { n with bus := bus }.deliver subject now recipient payload
  | (none, bus) => { n with bus := bus }

def act (n : LiveNode) (i : Nat) : NodeDialogue LiveNode := do
  let session ← ofSession (n.session.advance n.supervisor i)
  pure { n with session := session }

def settle (n : LiveNode) (subject : String) : LiveNode :=
  match n.handling.lookup subject with
  | none => n
  | some i =>
    if n.session.hasFinished i then
      { n with
        bus := n.bus.finish subject
        handling := n.handling.filter fun e => e.1 ≠ subject }
    else n

/-- One step of the main task. -/
def proceed (n : LiveNode) : NodeDialogue LiveNode :=
  match n.main with
  | .subscribing [] => pure { n with main := .building [.chainClient, .routine] }
  | .subscribing (subject :: rest) =>
    match n.bus.subscribe subject .supervisor with
    | (.ok (), bus) => pure { n with bus := bus, main := .subscribing rest }
    | (.error e, _) => pure { n with main := .closing (.error (.node (.handlers e))) }
  | .building [] => pure { n with main := .startingInspector }
  | .building (_ :: rest) => pure { n with main := .building rest }
  | .startingInspector =>
    match Node.startInspector n.config.inspectionSettings n.bus with
    | .ok (inspector, bus) => pure { n with inspector := inspector, bus := bus, main := .opening }
    | .error e => pure { n with main := .closing (.error (.node (.inspector e))) }
  | .opening => do
    let address := n.config.serverAddress
    match ← Dialogue.request (NodeRequest.listen address) with
    | .ok () => pure { n with main := .serving }
    | .error reason => pure { n with main := .closing (.error (.node (.listen address reason))) }
  | .serving => pure (if n.bus.closed then { n with main := .closing (.ok ()) } else n)
  | .closing r => pure { n with bus := n.bus.shutDown, main := .joining r }
  | .joining r =>
    if n.session.allAsked then
      pure { n with
        session := n.session.arrive .shutdown
        main := .stopping n.session.turns.length r }
    else pure n
  | .stopping i r => pure (if n.session.hasFinished i then { n with main := .ended r } else n)
  | .ended _ => pure n

def fail (n : LiveNode) (reason : String) : LiveNode :=
  match n.main with
  | .building (f :: _) => { n with main := .closing (.error (.facility f reason)) }
  | .serving => { n with main := .closing (.error (.facility .server reason)) }
  | _ => n

def step (n : LiveNode) : NodeMove → NodeDialogue LiveNode
  | .tell => pure { n with bus := n.bus.close }
  | .post subject payload => pure { n with bus := (n.bus.publish subject payload).2 }
  | .dispatch subject now => pure (n.dispatch subject now)
  | .act i => n.act i
  | .settle subject => pure (n.settle subject)
  | .main => n.proceed
  | .fail reason => pure (n.fail reason)

end LiveNode

namespace NodeLife

/-- A life that has just begun. -/
def start (c : Config) (told : Bool) : NodeLife :=
  .launching c told (Supervisor.launch c.fleet.policy c.fleet.infrastructure)

/-- One step of the launch. -/
def launchStep (c : Config) (told : Bool) :
    FleetDialogue (Except FleetError (Supervisor × FleetTable)) → NodeDialogue NodeLife
  | .ask r next => do
    let answer ← Dialogue.request (NodeRequest.fleet r)
    pure (.launching c told (next answer))
  | .done (.ok (s, table)) => pure (.up (.enter c told s table))
  | .done (.error e) => pure (.failed told e)

def step : NodeLife → NodeMove → NodeDialogue NodeLife
  | .launching c _ rest, .tell => pure (.launching c true rest)
  | .launching c told rest, .main => launchStep c told rest
  | .up n, m => do return .up (← n.step m)
  | life, _ => pure life

/-- Lets one thing happen after the other. -/
def play : List NodeMove → NodeLife → NodeDialogue NodeLife
  | [], life => pure life
  | m :: rest, life => do play rest (← life.step m)

/-- How a life ended, if it has. -/
def end? : NodeLife → Option LifeEnd
  | .launching _ _ _ => none
  | .failed told cause => some ⟨.error (.node (.infrastructure cause)), told⟩
  | .up n =>
    match n.main with
    | .ended r => some ⟨r, n.bus.closed⟩
    | _ => none

end NodeLife

end NodeKeeper
