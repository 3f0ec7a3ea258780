/-
# The container engine behind its program

Meets each request to the engine by commands of the engine's program.  Some
failures are expected and recognized by what the program says.
-/
import NodeKeeper.Docker.Commands

namespace NodeKeeper.Docker

/-- What the program says about an image that is not there. -/
def noSuchImage : String := "no such image"

/-- What it says about a network that is there already. -/
def networkExists : String := "already exists"

/-- What it says about a container that is attached already. -/
def alreadyInNetwork : String := "already exists in network"

/-- Runs a command that must succeed. -/
def runChecked (c : Command) : ProcessDialogue (Except RuntimeError CommandOutput) := do
  match ← c.run with
  | .error e => pure (.error e)
  | .ok output => pure (output.result c)

/-- The id in the output of a command, on its first line that is not blank. -/
def idIn (kind name : String) (output : CommandOutput) : Except RuntimeError String :=
  match output.firstLine? with
  | some id => .ok id
  | none => .error (.invalidOutput ("no " ++ kind ++ " id returned for '" ++ name ++ "'"))

def hasImage (program image : String) : ProcessDialogue (Except RuntimeError Bool) := do
  let c := imageInspect program image
  match ← c.run with
  | .error e => pure (.error e)
  | .ok output =>
    if output.success then pure (.ok true)
    else if output.mentions noSuchImage then pure (.ok false)
    else pure ((output.result c).map fun _ => false)

def pullImage (program image : String) : ProcessDialogue (Except RuntimeError Unit) := do
  let result ← runChecked (imagePull program image)
  pure (result.map fun _ => ())

/-- Creates a network, or looks up the id of one that is there. -/
def createNetwork (program name : String) : ProcessDialogue (Except RuntimeError String) := do
  let c := networkCreate program name
  match ← c.run with
  | .error e => pure (.error e)
  | .ok output =>
    if ¬ output.success ∧ output.mentions networkExists then
      let found ← runChecked (networkInspect program name)
      pure (found.bind (idIn "network" name))
    else pure ((output.result c).bind (idIn "network" name))

def attach (program container network : String) :
    ProcessDialogue (Except RuntimeError Attachment) := do
  let c := networkConnect program network container
  match ← c.run with
  | .error e => pure (.error e)
  | .ok output =>
    if output.success then pure (.ok .attached)
    else if output.mentions alreadyInNetwork then pure (.ok .alreadyAttached)
    else pure ((output.result c).map fun _ => .attached)

/-- Attaches a container to networks, up to the first failure. -/
def attachAll (program container : String) :
    List String → ProcessDialogue (Except RuntimeError Unit)
  | [] => pure (.ok ())
  | network :: rest => do
    match ← attach program container network with
    | .error e => pure (.error e)
    | .ok _ => attachAll program container rest

/-- Starts a container and attaches it to its linked networks. -/
def start (program : String) (spec : ContainerSpec) :
    ProcessDialogue (Except RuntimeError Handle) := do
  match (← runChecked (run program spec)).bind (idIn "container" spec.name) with
  | .error e => pure (.error e)
  | .ok id =>
    match ← attachAll program id spec.linkedNetworks with
    | .error e => pure (.error e)
    | .ok () => pure (.ok ⟨id, spec.name, spec.image⟩)

def stopContainer (program container : String) : ProcessDialogue (Except RuntimeError Unit) := do
  let result ← runChecked (stop program container)
  pure (result.map fun _ => ())

/-- Meets a request to the engine. -/
def answer (program : String) : (c : RuntimeCall) → ProcessDialogue c.Answer
  | .hasImage image => hasImage program image
  | .pullImage image => pullImage program image
  | .createNetwork name => createNetwork program name
  | .start spec => start program spec
  | .attach container network => attach program container network
  | .stop container => stopContainer program container

end NodeKeeper.Docker
