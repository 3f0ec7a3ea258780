/-
# Messages to the supervisor

The subjects a supervisor listens to, and the request that a message on one of
them makes.  A payload that is no batch of agents makes none.
-/
import NodeKeeper.Failure
import NodeKeeper.Fleet.Session

namespace NodeKeeper.Supervisor

/-- The subjects a supervisor listens to, in the order it asks for them. -/
def subjects : List String := [Subject.agentsRun, Subject.agentsStop]

/-- The request that a message makes. -/
def requestOf? (subject : String) (payload : List UInt8) : Option SupervisorRequest :=
  let batch := Json.decode Agent.batchDecoder payload
  if subject = Subject.agentsRun then batch.map .run
  else if subject = Subject.agentsStop then batch.map .stop
  else none

/-- What the sender of a message is told about its request. -/
def messageResult (subject : String) : SupervisorAnswer → Except BusError Unit
  | .done (.error e) => .error (.handler subject (Failure.fleet e).message)
  | _ => .ok ()

end NodeKeeper.Supervisor
