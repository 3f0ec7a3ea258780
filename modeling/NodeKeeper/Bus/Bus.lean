/-
# The message bus

A bus carries payloads to handlers by subject.  A subject has at most one
handler, which it keeps as long as the bus is open.  Each subject with a handler
has a lane of its own: a queue of payloads, and a dispatcher that hands them to
the handler one after the other.  Lanes know nothing of each other, so a handler
that is busy holds back only its own subject.

A payload on a subject without a handler is dropped.  Once the bus is closed it
takes neither payloads nor handlers; a dispatcher notices when it would take the
next payload from its queue, and ends instead.
-/
import NodeKeeper.Bus.Error
import NodeKeeper.Data.Dictionary
import NodeKeeper.Text.Shown

namespace NodeKeeper

/-- What a bus carries. -/
abbrev Payload := List UInt8

/-- Where a dispatcher stands. -/
inductive LaneStage where
  /-- between two payloads -/
  | idle
  /-- the handler is at work on a payload -/
  | handling (payload : Payload)
  | ended
  deriving DecidableEq, Repr

/-- The queue and the dispatcher of a subject. -/
structure Lane (Handler : Type) where
  handler : Handler
  /-- the payloads that wait, the oldest first -/
  queue : List Payload
  stage : LaneStage

/-- A bus with handlers of some type. -/
structure Bus (Handler : Type) where
  lanes : Dictionary (Lane Handler)
  closed : Bool
  /-- subjects still lead to their lanes -/
  routed : Bool

namespace Bus

variable {Handler : Type}

/-- An open bus without handlers. -/
def opened : Bus Handler := ⟨.empty, false, true⟩

/-- The subjects that have a handler, in order. -/
def subjects (b : Bus Handler) : List String :=
  if b.routed then b.lanes.entries.map (·.1) else []

def setLane (b : Bus Handler) (subject : String) (lane : Lane Handler) : Bus Handler :=
  { b with lanes := b.lanes.put subject lane }

/-- The handler of a subject. -/
def handler? (b : Bus Handler) (subject : String) : Option Handler :=
  (b.lanes.get? subject).map (·.handler)

/-- Gives a subject its handler. -/
def subscribe (b : Bus Handler) (subject : String) (handler : Handler) :
    Except BusError Unit × Bus Handler :=
  if b.closed then (.error .closed, b)
  else
    match b.lanes.get? subject with
    | some _ => (.error (.alreadySubscribed subject), b)
    | none => (.ok (), b.setLane subject ⟨handler, [], .idle⟩)

/-- Puts a payload into the queue of its subject.  A dispatcher that has ended
takes none. -/
def publish (b : Bus Handler) (subject : String) (payload : Payload) :
    Except BusError Unit × Bus Handler :=
  if b.closed then (.error .closed, b)
  else
    match b.lanes.get? subject with
    | none => (.ok (), b)
    | some lane =>
      if lane.stage = .ended then (.error .closed, b)
      else (.ok (), b.setLane subject { lane with queue := lane.queue ++ [payload] })

/-- One step of a subject's dispatcher between two payloads: it ends if the bus
is closed, or else hands the oldest payload to the handler.  In any other case
nothing happens. -/
def dispatch (b : Bus Handler) (subject : String) : Option (Handler × Payload) × Bus Handler :=
  match b.lanes.get? subject with
  | none => (none, b)
  | some lane =>
    if lane.stage ≠ .idle then (none, b)
    else if b.closed then (none, b.setLane subject { lane with stage := .ended })
    else
      match lane.queue with
      | [] => (none, b)
      | payload :: rest =>
        (some (lane.handler, payload),
         b.setLane subject { lane with queue := rest, stage := .handling payload })

/-- What the handler of a subject is at work on. -/
def inHand (b : Bus Handler) (subject : String) : Option (Handler × Payload) :=
  (b.lanes.get? subject).bind fun lane =>
    match lane.stage with
    | .handling payload => some (lane.handler, payload)
    | _ => none

/-- The handler of a subject is done with its payload, whether it failed or
not. -/
def finish (b : Bus Handler) (subject : String) : Bus Handler :=
  match b.lanes.get? subject, b.inHand subject with
  | some lane, some _ => b.setLane subject { lane with stage := .idle }
  | _, _ => b

/-- The handler of a subject has crashed and takes the dispatcher with it. -/
def crash (b : Bus Handler) (subject : String) : Bus Handler :=
  match b.lanes.get? subject, b.inHand subject with
  | some lane, some _ => b.setLane subject { lane with stage := .ended }
  | _, _ => b

/-- Closes the bus; handlers at work go on. -/
def close (b : Bus Handler) : Bus Handler := { b with closed := true }

/-- Closes the bus and forgets which subjects have handlers. -/
def shutDown (b : Bus Handler) : Bus Handler := { b with closed := true, routed := false }

/-- Is the dispatcher of a subject between two payloads? -/
def isIdle (b : Bus Handler) (subject : String) : Bool :=
  match b.lanes.get? subject with
  | some lane => lane.stage = .idle
  | none => false

/-- Has the dispatcher of a subject ended? -/
def hasEnded (b : Bus Handler) (subject : String) : Bool :=
  match b.lanes.get? subject with
  | some lane => lane.stage = .ended
  | none => true

/-- The bus shown for diagnostics. -/
def shown (b : Bus Handler) : String :=
  Text.shownRecord "InProcMessageBus"
    [("subjects", Text.shownList (b.subjects.map Text.quoted)),
     ("shutdown_cancelled", Text.shownBool b.closed)]

end Bus

end NodeKeeper
