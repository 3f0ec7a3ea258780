/-
# The node on its host

The host runs processes, carries messages, shows counts, tells the time and
lets a service be opened.  It knows nothing of containers: each request to the
engine is met by processes of the engine's program.
-/
import NodeKeeper.Docker.Engine
import NodeKeeper.Node.Node

namespace NodeKeeper

/-- What the node asks of its host. -/
inductive HostRequest where
  | process (r : ProcessRequest)
  | publish (subject : String) (batch : List Agent)
  | setCount (n : Nat)
  | now
  | listen (address : String)

def HostRequest.Answer : HostRequest → Type
  | .process r => r.Answer
  | .publish _ _ => Unit
  | .setCount _ => Unit
  | .now => Timestamp
  | .listen _ => Except String Unit

abbrev HostDialogue (α : Type) : Type := Dialogue HostRequest HostRequest.Answer α

/-- Processes, run on the host. -/
def HostDialogue.ofProcesses {α : Type} (d : ProcessDialogue α) : HostDialogue α :=
  d.meet fun r => Dialogue.request (HostRequest.process r)

/-- Meets a request of the node, with the engine's program of the given name. -/
def NodeRequest.onHost (program : String) : (r : NodeRequest) → HostDialogue r.Answer
  | .fleet (.runtime call) => HostDialogue.ofProcesses (Docker.answer program call)
  | .fleet (.publish subject batch) => Dialogue.request (HostRequest.publish subject batch)
  | .fleet (.setCount n) => Dialogue.request (HostRequest.setCount n)
  | .fleet .now => Dialogue.request HostRequest.now
  | .listen address => Dialogue.request (HostRequest.listen address)

/-- A dialogue of the node as one with its host. -/
def NodeDialogue.onHost {α : Type} (program : String) (d : NodeDialogue α) : HostDialogue α :=
  d.meet (NodeRequest.onHost program)

end NodeKeeper
