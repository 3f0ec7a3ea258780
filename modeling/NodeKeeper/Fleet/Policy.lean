/-
# The policy of a fleet

What holds for every container the node starts, and the two containers every
agent shares: the scanner and the JSON-RPC proxy.
-/
import NodeKeeper.Agent.Descriptor
import NodeKeeper.Fleet.Limits

namespace NodeKeeper

open Json Number

/-- When log files are rotated, and how many are kept. -/
structure LogRotation where
  /-- the size in the engine's notation, such as `50m` -/
  maxSize : String
  maxFiles : UInt32
  deriving DecidableEq, Repr

namespace LogRotation

def standard : LogRotation := ⟨"50m", 10⟩

def toJson (l : LogRotation) : Value :=
  .object [("max_size", .text l.maxSize), ("max_files", .integer l.maxFiles.toNat)]

def decoder : Decoder LogRotation := fun t => do
  match ← Decode.fields ["max_size", "max_files"] t with
  | [size, files] =>
    let files ← Decode.required (Decode.unsigned maxU32) files
    pure ⟨← Decode.required Decode.text size, files.toUInt32⟩
  | _ => none

end LogRotation

structure FleetPolicy where
  resources : Resources
  log : LogRotation
  /-- pull an image that is missing instead of failing -/
  pullImages : Bool
  /-- the port of the JSON-RPC proxy -/
  jsonRpcPort : UInt16

namespace FleetPolicy

def standardPort : UInt16 := 8545

def standard : FleetPolicy := ⟨.standard, .standard, true, standardPort⟩

def toJson (p : FleetPolicy) : Value :=
  .object
    [("resources", p.resources.toJson), ("log", p.log.toJson),
     ("pull_images", .bool p.pullImages), ("json_rpc_port", .integer p.jsonRpcPort.toNat)]

def decoder : Decoder FleetPolicy := fun t => do
  match ← Decode.fields ["resources", "log", "pull_images", "json_rpc_port"] t with
  | [resources, log, pull, port] =>
    let port ← Decode.required (Decode.unsigned maxU16) port
    pure {
      resources := ← Decode.required Resources.decoder resources
      log := ← Decode.required LogRotation.decoder log
      pullImages := ← Decode.required Decode.bool pull
      jsonRpcPort := port.toUInt16 }
  | _ => none

/-- Tells an agent where the JSON-RPC proxy is. -/
def hostVariable : String := "JSON_RPC_HOST"
def portVariable : String := "JSON_RPC_PORT"

/-- Tells an agent the port to serve on. -/
def agentPortVariable : String := "AGENT_GRPC_PORT"

/-- The environment of an agent's container. -/
def agentEnvironment (p : FleetPolicy) (agent : Agent) (proxyHost : String) :
    Dictionary String :=
  .ofList
    [(hostVariable, proxyHost),
     (portVariable, toString p.jsonRpcPort.toNat),
     (agentPortVariable, toString agent.port)]

end FleetPolicy

/-- A container every agent shares. -/
structure SharedContainer where
  name : String
  image : String
  env : Dictionary String
  deriving DecidableEq

namespace SharedContainer

def toJson (c : SharedContainer) : Value :=
  .object
    [("name", .text c.name), ("image", .text c.image),
     ("env", .object (c.env.entries.map fun (k, s) => (k, .text s)))]

def decoder : Decoder SharedContainer := fun t => do
  match ← Decode.fields ["name", "image", "env"] t with
  | [name, image, env] =>
    pure {
      name := ← Decode.required Decode.text name
      image := ← Decode.required Decode.text image
      env := ← Decode.defaulted .empty (Decode.dictionary Decode.text) env }
  | _ => none

end SharedContainer

/-- What is started before any agent. -/
structure Infrastructure where
  /-- the network the shared containers start on -/
  networkName : String
  scanner : SharedContainer
  jsonRpcProxy : SharedContainer
  deriving DecidableEq

namespace Infrastructure

def toJson (i : Infrastructure) : Value :=
  .object
    [("network_name", .text i.networkName), ("scanner", i.scanner.toJson),
     ("json_rpc_proxy", i.jsonRpcProxy.toJson)]

def decoder : Decoder Infrastructure := fun t => do
  match ← Decode.fields ["network_name", "scanner", "json_rpc_proxy"] t with
  | [name, scanner, proxy] =>
    pure {
      networkName := ← Decode.required Decode.text name
      scanner := ← Decode.required SharedContainer.decoder scanner
      jsonRpcProxy := ← Decode.required SharedContainer.decoder proxy }
  | _ => none

end Infrastructure

end NodeKeeper
