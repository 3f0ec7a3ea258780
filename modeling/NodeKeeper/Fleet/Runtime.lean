/-
# What the fleet asks of its surroundings

The container engine as the fleet sees it: a few requests, each answered by a
result or an engine error.  Beside it stand the publication of a status, the
count shown to health checks, and the time of day.
-/
import NodeKeeper.Dialogue
import NodeKeeper.Fleet.Table

namespace NodeKeeper

/-- Why a request to the container engine failed. -/
inductive RuntimeError where
  /-- the engine's program could not be started -/
  | spawn (program reason : String)
  /-- a command ended in failure; no exit code if a signal ended it -/
  | commandFailed (command : String) (code : Option Int) (stderr : String)
  | invalidOutput (what : String)
  | other (text : String)
  deriving DecidableEq, Repr

/-- How an optional exit code is shown. -/
def exitCodeText : Option Int → String
  | some code => "Some(" ++ toString code ++ ")"
  | none => "None"

def RuntimeError.message : RuntimeError → String
  | .spawn program reason => "failed to spawn " ++ program ++ ": " ++ reason
  | .commandFailed command code stderr =>
    "`" ++ command ++ "` exited with " ++ exitCodeText code ++ ": " ++ stderr
  | .invalidOutput what => "unexpected runtime output: " ++ what
  | .other text => text

inductive Attachment where
  | attached
  | alreadyAttached
  deriving DecidableEq, Repr

/-- A request to the container engine. -/
inductive RuntimeCall where
  | hasImage (image : String)
  | pullImage (image : String)
  /-- creates the network, or finds the one of that name -/
  | createNetwork (name : String)
  | start (spec : ContainerSpec)
  | attach (container network : String)
  | stop (container : String)
  deriving DecidableEq

/-- What a request to the engine yields when it succeeds. -/
def RuntimeCall.Success : RuntimeCall → Type
  | .hasImage _ => Bool
  | .pullImage _ => Unit
  | .createNetwork _ => String
  | .start _ => Handle
  | .attach _ _ => Attachment
  | .stop _ => Unit

/-- The answer to a request to the engine. -/
abbrev RuntimeCall.Answer (c : RuntimeCall) : Type := Except RuntimeError c.Success

/-- A request of the fleet to its surroundings. -/
inductive FleetRequest where
  | runtime (call : RuntimeCall)
  /-- publishes a batch; whether that succeeds makes no difference -/
  | publish (subject : String) (batch : List Agent)
  /-- sets the number of containers that health checks show -/
  | setCount (n : Nat)
  | now

def FleetRequest.Answer : FleetRequest → Type
  | .runtime call => call.Answer
  | .publish _ _ => Unit
  | .setCount _ => Unit
  | .now => Timestamp

abbrev FleetDialogue (α : Type) : Type := Dialogue FleetRequest FleetRequest.Answer α

namespace FleetDialogue

def call (c : RuntimeCall) : FleetDialogue c.Answer := Dialogue.request (FleetRequest.runtime c)

def publish (subject : String) (batch : List Agent) : FleetDialogue Unit :=
  Dialogue.request (FleetRequest.publish subject batch)

def setCount (n : Nat) : FleetDialogue Unit := Dialogue.request (FleetRequest.setCount n)

def now : FleetDialogue Timestamp := Dialogue.request FleetRequest.now

end FleetDialogue

end NodeKeeper
