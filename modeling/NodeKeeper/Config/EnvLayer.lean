/-
# Settings from the environment

Each variable holds one setting.  A variable that is unset, blank or not
readable as its setting counts as absent.
-/
import NodeKeeper.Json.Value
import NodeKeeper.Number.Integer
import NodeKeeper.Number.Reading
import NodeKeeper.Text.Blank

namespace NodeKeeper

open Text Number

namespace Setting

/-- A switch: one of four words for each state, in any case. -/
def bool? (raw : String) : Option Bool :=
  let word := lower (trim raw)
  if ["1", "true", "yes", "on"].contains word then some true
  else if ["0", "false", "no", "off"].contains word then some false
  else none

/-- A text that is not blank, trimmed. -/
def text? (raw : Option String) : Option String := raw.bind nonBlank?

/-- A whole number up to `limit`. -/
def unsigned? (limit : Nat) (raw : Option String) : Option Nat :=
  (text? raw).bind fun s => (readUnsigned 10 limit s.toList).toOption

/-- A double. -/
def double? (raw : Option String) : Option Float := (text? raw).bind readDouble?

end Setting

/-- The settings found in the environment. -/
structure EnvLayer where
  configPath : Option String
  chainId : Option UInt64
  chainRpcUrl : Option String
  traceRpcUrl : Option String
  blockInterval : Option UInt64
  enableTrace : Option Bool
  networkSaving : Option Bool
  proxyUrl : Option String
  localMode : Option Bool
  localModeInspection : Option Bool
  maxCpus : Option Float
  maxMemoryMib : Option UInt64
  logMaxSize : Option String
  logMaxFiles : Option UInt32
  dockerProgram : Option String
  pullImages : Option Bool
  scannerImage : Option String
  jsonRpcImage : Option String
  jsonRpcPort : Option UInt16
  serverHost : Option String
  serverPort : Option UInt16

namespace EnvLayer

/-- An environment without settings. -/
def empty : EnvLayer := {
  configPath := none, chainId := none, chainRpcUrl := none, traceRpcUrl := none
  blockInterval := none, enableTrace := none, networkSaving := none, proxyUrl := none
  localMode := none, localModeInspection := none, maxCpus := none, maxMemoryMib := none
  logMaxSize := none, logMaxFiles := none, dockerProgram := none, pullImages := none
  scannerImage := none, jsonRpcImage := none, jsonRpcPort := none
  serverHost := none, serverPort := none }

/-- The settings held by the variables that `lookup` finds. -/
def ofLookup (lookup : String → Option String) : EnvLayer :=
  let text (name : String) : Option String := Setting.text? (lookup name)
  let switch (name : String) : Option Bool := (text name).bind Setting.bool?
  let u64 (name : String) : Option UInt64 :=
    (Setting.unsigned? maxU64 (lookup name)).map Nat.toUInt64
  let u32 (name : String) : Option UInt32 :=
    (Setting.unsigned? maxU32 (lookup name)).map Nat.toUInt32
  let u16 (name : String) : Option UInt16 :=
    (Setting.unsigned? maxU16 (lookup name)).map Nat.toUInt16
  { configPath := text "VIGIL_CONFIG_PATH"
    chainId := u64 "VIGIL_CHAIN_ID"
    chainRpcUrl := text "VIGIL_CHAIN_RPC_URL"
    traceRpcUrl := text "VIGIL_TRACE_RPC_URL"
    blockInterval := u64 "VIGIL_INSPECTION_BLOCK_INTERVAL"
    enableTrace := switch "VIGIL_INSPECTION_ENABLE_TRACE"
    networkSaving := switch "VIGIL_NETWORK_SAVING_MODE"
    proxyUrl := text "VIGIL_PROXY_URL"
    localMode := switch "VIGIL_LOCAL_MODE"
    localModeInspection := switch "VIGIL_LOCAL_MODE_INSPECTION"
    maxCpus := Setting.double? (lookup "VIGIL_AGENT_MAX_CPUS")
    maxMemoryMib := u64 "VIGIL_AGENT_MAX_MEMORY_MIB"
    logMaxSize := text "VIGIL_LOG_MAX_SIZE"
    logMaxFiles := u32 "VIGIL_LOG_MAX_FILES"
    dockerProgram := text "VIGIL_DOCKER_BIN"
    pullImages := switch "VIGIL_PULL_IMAGES"
    scannerImage := text "VIGIL_SCANNER_IMAGE"
    jsonRpcImage := text "VIGIL_JSON_RPC_IMAGE"
    jsonRpcPort := u16 "VIGIL_JSON_RPC_PORT"
    serverHost := text "VIGIL_SERVER_HOST"
    serverPort := u16 "VIGIL_SERVER_PORT" }

open Json in
/-- Every setting under its name, `null` for those that are absent. -/
def toJson (e : EnvLayer) : Value :=
  let text (s : Option String) : Value := (s.map Value.text).getD .null
  let bool (b : Option Bool) : Value := (b.map Value.bool).getD .null
  let number (n : Option Nat) : Value := (n.map fun n => Value.integer n).getD .null
  .object
    [("config_path", text e.configPath),
     ("chain_id", number (e.chainId.map UInt64.toNat)),
     ("chain_rpc_url", text e.chainRpcUrl),
     ("trace_rpc_url", text e.traceRpcUrl),
     ("inspection_block_interval", number (e.blockInterval.map UInt64.toNat)),
     ("enable_trace", bool e.enableTrace),
     ("network_saving_mode", bool e.networkSaving),
     ("proxy_url", text e.proxyUrl),
     ("local_mode", bool e.localMode),
     ("local_mode_inspection", bool e.localModeInspection),
     ("max_cpus", (e.maxCpus.map Value.float).getD .null),
     ("max_memory_mib", number (e.maxMemoryMib.map UInt64.toNat)),
     ("log_max_size", text e.logMaxSize),
     ("log_max_files", number (e.logMaxFiles.map UInt32.toNat)),
     ("docker_bin", text e.dockerProgram),
     ("pull_images", bool e.pullImages),
     ("scanner_image", text e.scannerImage),
     ("json_rpc_image", text e.jsonRpcImage),
     ("json_rpc_port", number (e.jsonRpcPort.map UInt16.toNat)),
     ("server_host", text e.serverHost),
     ("server_port", number (e.serverPort.map UInt16.toNat))]

end EnvLayer

end NodeKeeper
