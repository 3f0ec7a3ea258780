/-
# Rehearsals of a node

A node whose container engine is a scripted program.  The address of its
service may be one that nobody can listen at.
-/
import NodeKeeper.Docker.Rehearsal
import NodeKeeper.Node.Host

namespace NodeKeeper

structure RehearsedHost where
  processes : RehearsedProcesses
  /-- services can be opened -/
  listens : Bool

namespace RehearsedHost

/-- What is said about an address that is not the host's own. -/
def foreignAddress : String := "Cannot assign requested address (os error 99)"

/-- What the host does when it is asked. -/
def answer (r : HostRequest) (w : RehearsedHost) : r.Answer × RehearsedHost :=
  match r with
  | .process r =>
    let (answer, processes) := w.processes.respond r
    (answer, { w with processes := processes })
  | .publish _ _ => ((), w)
  | .setCount _ => ((), w)
  | .now => ((default : Timestamp), w)
  | .listen _ => (if w.listens then .ok () else .error foreignAddress, w)

/-- Answers a request, with the engine's program of the given name. -/
def respond (program : String) (r : NodeRequest) (w : RehearsedHost) :
    r.Answer × RehearsedHost :=
  (r.onHost program).run answer w

/-- The life of a node on the host. -/
def run (c : Config) (told : Bool) (messages : List NodeMessage) (w : RehearsedHost) :
    NodeEnd × RehearsedHost :=
  ((Node.run c told messages).onHost c.fleet.dockerProgram).run answer w

end RehearsedHost

end NodeKeeper
