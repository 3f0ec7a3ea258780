/-
# The configuration of a node

Every setting with its final value, and what the parts of the node are given.
-/
import NodeKeeper.Config.Chain
import NodeKeeper.Fleet.Policy
import NodeKeeper.Inspection.Settings

namespace NodeKeeper

open Json

structure ChainConfig where
  id : UInt64
  rpcUrl : String
  traceUrl : Option String
  settings : ChainSettings

structure InspectionConfig where
  /-- the blocks between two inspections -/
  cadence : UInt64
  enableTrace : Bool
  networkSaving : Bool
  proxyUrl : String

/-- Local mode turns inspections off, unless they are asked for. -/
structure LocalMode where
  enable : Bool
  enableInspection : Bool
  deriving DecidableEq, Repr

def LocalMode.inspects (m : LocalMode) : Bool := !m.enable || m.enableInspection

structure FleetConfig where
  dockerProgram : String
  policy : FleetPolicy
  infrastructure : Infrastructure

structure ServerConfig where
  host : String
  port : UInt16
  deriving DecidableEq, Repr

/-- Where the cadence comes from. -/
inductive CadenceSource where
  | chainTable
  | setting
  deriving DecidableEq, Repr

/-- Where the configuration comes from. -/
structure Provenance where
  configPath : Option String
  envFileLoaded : Bool
  cadenceSource : CadenceSource

structure Config where
  chain : ChainConfig
  inspection : InspectionConfig
  localMode : LocalMode
  fleet : FleetConfig
  server : ServerConfig
  provenance : Provenance

namespace Config

/-- The settings of the inspector; times are the standard ones. -/
def inspectionSettings (c : Config) : InspectionSettings :=
  { InspectionSettings.standard c.inspection.cadence c.chain.rpcUrl c.inspection.proxyUrl with
    checkTrace := c.inspection.enableTrace
    traceUrl := c.chain.traceUrl
    networkSaving := c.inspection.networkSaving
    enabled := c.localMode.inspects }

/-- Where the health server listens. -/
def serverAddress (c : Config) : String := c.server.host ++ ":" ++ toString c.server.port.toNat

def optionalText (s : Option String) : Value := (s.map Value.text).getD .null

def toJson (c : Config) : Value :=
  .object
    [("chain", .object
       [("id", .integer c.chain.id.toNat), ("rpc_url", .text c.chain.rpcUrl),
        ("trace_url", optionalText c.chain.traceUrl), ("settings", c.chain.settings.toJson)]),
     ("inspection", .object
       [("cadence", .integer c.inspection.cadence.toNat),
        ("enable_trace", .bool c.inspection.enableTrace),
        ("network_saving_mode", .bool c.inspection.networkSaving),
        ("proxy_url", .text c.inspection.proxyUrl)]),
     ("local_mode", .object
       [("enable", .bool c.localMode.enable),
        ("enable_inspection", .bool c.localMode.enableInspection)]),
     ("fleet", .object
       [("docker_bin", .text c.fleet.dockerProgram), ("policy", c.fleet.policy.toJson),
        ("infrastructure", c.fleet.infrastructure.toJson)]),
     ("server", .object
       [("host", .text c.server.host), ("port", .integer c.server.port.toNat)]),
     ("metadata", .object
       [("config_path", optionalText c.provenance.configPath),
        ("env_file_loaded", .bool c.provenance.envFileLoaded),
        ("cadence_source", .text (match c.provenance.cadenceSource with
          | .chainTable => "chain_table"
          | .setting => "override"))])]

end Config

end NodeKeeper
