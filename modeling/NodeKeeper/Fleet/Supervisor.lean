/-
# The supervisor of the fleet

Keeps the table of containers in line with requests to run and to stop agents.
A request works on the table it is given and yields the table it leaves; who
may hold the table when is the business of `Fleet.Session`.

An agent is started in steps: its image is found or pulled, a network of its
own is created, its container is started on it, and the scanner and the
JSON-RPC proxy are attached to it.  A container whose attachments fail is
stopped again and not recorded.
-/
import NodeKeeper.Fleet.Error
import NodeKeeper.Message.Subject

namespace NodeKeeper

/-- What a supervisor knows for good. -/
structure Supervisor where
  policy : FleetPolicy
  scanner : Handle
  jsonRpc : Handle

namespace Supervisor

open FleetDialogue

/-- Makes sure that an image is there, pulling it if that is allowed. -/
def ensureImage (label image : String) (pull : Bool) : FleetDialogue (Except FleetError Unit) := do
  match ← call (.hasImage image) with
  | .error cause => pure (.error (.image label image cause))
  | .ok true => pure (.ok ())
  | .ok false =>
    if pull then
      match ← call (.pullImage image) with
      | .error cause => pure (.error (.image label image cause))
      | .ok () => pure (.ok ())
    else pure (.error (.imageNotLocal label image))

/-- How a shared container is asked for. -/
def sharedSpec (policy : FleetPolicy) (shared : SharedContainer) (network : String) :
    ContainerSpec := {
  name := shared.name
  image := shared.image
  network := network
  linkedNetworks := []
  env := shared.env
  log := policy.log
  limits := ⟨none, none⟩ }

/-- Starts a shared container on the given network. -/
def startShared (policy : FleetPolicy) (shared : SharedContainer) (network : String) :
    FleetDialogue (Except FleetError Handle) := do
  match ← ensureImage shared.name shared.image policy.pullImages with
  | .error e => pure (.error e)
  | .ok () =>
    match ← call (.start (sharedSpec policy shared network)) with
    | .error cause => pure (.error (.startContainer shared.name cause))
    | .ok handle => pure (.ok handle)

/-- The table with the two shared containers and when they were recorded. -/
def initialTable (s : Supervisor) (scannerTime proxyTime : Timestamp) : FleetTable :=
  ((FleetTable.empty.insert ⟨s.scanner, .scanner, none, scannerTime⟩).2.insert
    ⟨s.jsonRpc, .jsonRpcProxy, none, proxyTime⟩).2

/-- A supervisor around shared containers that run already, with its table. -/
def adopt (policy : FleetPolicy) (scanner jsonRpc : Handle) :
    FleetDialogue (Supervisor × FleetTable) := do
  let s : Supervisor := ⟨policy, scanner, jsonRpc⟩
  let scannerTime ← now
  let proxyTime ← now
  let table := s.initialTable scannerTime proxyTime
  setCount table.size
  pure (s, table)

/-- Starts the shared containers and a supervisor around them.  If the second
cannot be started the first is stopped again. -/
def launch (policy : FleetPolicy) (infra : Infrastructure) :
    FleetDialogue (Except FleetError (Supervisor × FleetTable)) := do
  match ← call (.createNetwork infra.networkName) with
  | .error cause => pure (.error (.network infra.networkName cause))
  | .ok network =>
    match ← startShared policy infra.scanner network with
    | .error e => pure (.error e)
    | .ok scanner =>
      match ← startShared policy infra.jsonRpcProxy network with
      | .error e =>
        let _ ← call (.stop scanner.id)
        pure (.error e)
      | .ok jsonRpc => return .ok (← adopt policy scanner jsonRpc)

/-- Attaches containers to a network, up to the first failure. -/
def attachAll (network : String) : List Handle → FleetDialogue (Except FleetError Unit)
  | [] => pure (.ok ())
  | h :: rest => do
    match ← call (.attach h.id network) with
    | .error cause => pure (.error (.attachNetwork h.id network cause))
    | .ok _ => attachAll network rest

/-- How an agent's container is asked for. -/
def agentSpec (s : Supervisor) (agent : Agent) (network : String) : ContainerSpec := {
  name := agent.containerName
  image := agent.image
  network := network
  linkedNetworks := []
  env := s.policy.agentEnvironment agent s.jsonRpc.name
  log := s.policy.log
  limits := Limits.ofResources s.policy.resources }

/-- Starts an agent; yields its record. -/
def startAgent (s : Supervisor) (agent : Agent) :
    FleetDialogue (Except FleetError ContainerRecord) := do
  match ← ensureImage ("agent " ++ agent.id) agent.image s.policy.pullImages with
  | .error e => pure (.error e)
  | .ok () =>
    match ← call (.createNetwork agent.containerName) with
    | .error cause => pure (.error (.network agent.containerName cause))
    | .ok network =>
      match ← call (.start (s.agentSpec agent network)) with
      | .error cause => pure (.error (.startContainer agent.containerName cause))
      | .ok handle =>
        match ← attachAll network [s.scanner, s.jsonRpc] with
        | .error e =>
          let _ ← call (.stop handle.id)
          pure (.error e)
        | .ok () => return .ok ⟨handle, .agent agent, some network, ← now⟩

/-- Sees to it that one agent runs, and reports it as running.  An agent that
cannot be started is left out. -/
def runAgent (s : Supervisor) (table : FleetTable) (agent : Agent) :
    FleetDialogue FleetTable := do
  if table.contains agent.containerName then
    publish Subject.agentsRunning [agent]
    pure table
  else
    match ← s.startAgent agent with
    | .error _ => pure table
    | .ok record =>
      let table := (table.insert record).2
      publish Subject.agentsRunning [agent]
      pure table

/-- Sees to the agents of a batch one after the other. -/
def runAgents (s : Supervisor) : FleetTable → List Agent → FleetDialogue FleetTable
  | table, [] => pure table
  | table, agent :: rest => do
    let table ← s.runAgent table agent
    s.runAgents table rest

/-- A request to run a batch of agents. -/
def run (s : Supervisor) (batch : List Agent) (table : FleetTable) :
    FleetDialogue FleetTable := do
  let table ← s.runAgents table batch
  setCount table.size
  pure table

/-- Stops the recorded containers of a batch, each once, up to the first
failure.  Yields the ids and the agents stopped, both in reverse. -/
def stopAgents (table : FleetTable) :
    List Agent → List String → List Agent →
      FleetDialogue (Except FleetError (List String × List Agent))
  | [], ids, agents => pure (.ok (ids, agents))
  | agent :: rest, ids, agents =>
    match table.get? agent.containerName with
    | none => stopAgents table rest ids agents
    | some record =>
      if ids.contains record.id then stopAgents table rest ids agents
      else do
        match ← call (.stop record.id) with
        | .error cause => pure (.error (.stopContainer record.id cause))
        | .ok () => stopAgents table rest (record.id :: ids) (agent :: agents)

/-- A request to stop a batch of agents.  The first failure ends it and leaves
the table as it was. -/
def stop (batch : List Agent) (table : FleetTable) :
    FleetDialogue (Except FleetError Unit × FleetTable) := do
  match ← stopAgents table batch [] [] with
  | .error e => pure (.error e, table)
  | .ok (ids, agents) =>
    let table := (table.removeIds ids).2
    setCount table.size
    if ¬ batch.isEmpty then
      publish Subject.agentsStopped agents.reverse
    pure (.ok (), table)

/-- Stops the containers one after the other, whether that succeeds or not. -/
def stopEach : List ContainerRecord → FleetDialogue Unit
  | [] => pure ()
  | record :: rest => do
    let _ ← call (.stop record.id)
    stopEach rest

/-- Stops every recorded container, agents first, and empties the table. -/
def shutdown (table : FleetTable) : FleetDialogue FleetTable := do
  let (records, table) := table.drain
  setCount 0
  stopEach records
  pure table

end Supervisor

end NodeKeeper
