/-
# From layers to a configuration

A setting is taken from the environment, else from the file, else it has a
default.  Settings are checked in a fixed order, and the first one that is
missing or wrong ends the composition.
-/
import NodeKeeper.Config.Config
import NodeKeeper.Config.EnvLayer
import NodeKeeper.Config.Error
import NodeKeeper.Config.FileLayer
import NodeKeeper.Config.Warnings
import NodeKeeper.Url.Address

namespace NodeKeeper

namespace Config

/-! ## Values of settings that neither layer has -/

namespace Fallback

def chainId : UInt64 := 1
def networkName : String := "vigil-node"
def scannerName : String := "vigil-scanner"
def scannerImage : String := "ghcr.io/vigil-node/scanner:latest"
def jsonRpcName : String := "vigil-json-rpc"
def jsonRpcImage : String := "ghcr.io/vigil-node/json-rpc:latest"
def dockerProgram : String := "docker"
def serverHost : String := "127.0.0.1"
def serverPort : UInt16 := 8090

end Fallback

/-! ## Checks -/

/-- The schemes of endpoints the node can talk to. -/
def endpointSchemes : List String := ["http", "https", "ws", "wss"]

/-- Is the value the address of an endpoint? -/
def checkUrl (field value : String) : Except ConfigError Unit :=
  match Url.Address.read? value with
  | none => .error (.invalidUrl field value)
  | some address =>
    if endpointSchemes.contains address.scheme then .ok ()
    else .error (.invalidValue field ("unsupported URL scheme '" ++ address.scheme ++ "'"))

/-- The name of an image, trimmed; it may not be blank. -/
def checkImage (field name : String) : Except ConfigError String :=
  match Text.nonBlank? name with
  | none => .error (.invalidValue field "image reference must not be empty")
  | some trimmed => .ok trimmed

/-- Are processors limited to no positive number? -/
def lacksCpus (r : Resources) : Bool :=
  match r.maxCpus with
  | some cpus => cpus ≤ 0.0
  | none => false

/-! ## Composition -/

/-- Composes a configuration from the layer of a file, if there is a file, and
the layer of the environment. -/
def compose (file? : Option FileLayer) (env : EnvLayer) (path : Option String) :
    Except ConfigError (Config × Warnings) := do
  let file := file?.getD .empty
  let warnings :=
    if path.isNone then
      Warnings.none.pushWithHint
        "No vigil.toml detected; falling back to environment variables"
        "Create vigil.toml or point VIGIL_CONFIG_PATH at a config file"
    else .none
  let chainId := (env.chainId <|> file.chain.id).getD Fallback.chainId
  let warnings :=
    if (ChainSettings.known? chainId).isNone then
      warnings.push ("Chain " ++ toString chainId.toNat ++
        " has no dedicated settings; using defaults")
    else warnings
  let chain := ChainSettings.ofId chainId
  let rpcUrl ← match env.chainRpcUrl <|> file.chain.rpcUrl with
    | some url => pure url
    | none => throw (.missingValue "chain.rpc_url")
  checkUrl "chain.rpc_url" rpcUrl
  let traceUrl := env.traceRpcUrl <|> file.chain.traceUrl
  match traceUrl with
  | some url => checkUrl "chain.trace_url" url
  | none => pure ()
  let (cadence, cadenceSource) := match env.blockInterval <|> file.inspection.blockInterval with
    | some interval => (interval, CadenceSource.setting)
    | none => (chain.inspectionInterval, .chainTable)
  if cadence = 0 then
    throw (.invalidValue "inspection.block_interval" "must be greater than zero")
  let wantsTrace :=
    (env.enableTrace <|> file.inspection.enableTrace).getD chain.enableTrace
  let warnings :=
    if wantsTrace && traceUrl.isNone then
      warnings.pushWithHint
        "Trace inspection requested without a trace RPC URL; disabling trace checks"
        "Set chain.trace_url or VIGIL_TRACE_RPC_URL"
    else warnings
  let jsonRpcName := file.containers.jsonRpcName.getD Fallback.jsonRpcName
  let jsonRpcPort :=
    (env.jsonRpcPort <|> file.containers.jsonRpcPort).getD FleetPolicy.standardPort
  let proxyUrl := (env.proxyUrl <|> file.inspection.proxyUrl).getD
    ("http://" ++ jsonRpcName ++ ":" ++ toString jsonRpcPort.toNat)
  checkUrl "inspection.proxy_url" proxyUrl
  let localMode : LocalMode := {
    enable := (env.localMode <|> file.localMode.enable).getD false
    enableInspection :=
      (env.localModeInspection <|> file.localMode.enableInspection).getD false }
  let warnings :=
    if ! localMode.inspects then
      warnings.pushWithHint
        "Inspection is disabled in local mode"
        "Set local_mode.enable_inspection = true to run self-inspections"
    else warnings
  let resources : Resources := {
    maxCpus := env.maxCpus <|> file.resources.maxCpus <|> Resources.standard.maxCpus
    maxMemoryMib :=
      env.maxMemoryMib <|> file.resources.maxMemoryMib <|> Resources.standard.maxMemoryMib }
  let warnings :=
    if lacksCpus resources then
      warnings.push "resources.max_cpus is not positive; CPU is unbounded"
    else warnings
  let log : LogRotation := {
    maxSize := (env.logMaxSize <|> file.log.maxSize).getD LogRotation.standard.maxSize
    maxFiles := (env.logMaxFiles <|> file.log.maxFiles).getD LogRotation.standard.maxFiles }
  let scannerImage ← checkImage "containers.scanner_image"
    ((env.scannerImage <|> file.containers.scannerImage).getD Fallback.scannerImage)
  let jsonRpcImage ← checkImage "containers.json_rpc_image"
    ((env.jsonRpcImage <|> file.containers.jsonRpcImage).getD Fallback.jsonRpcImage)
  let config : Config := {
    chain := ⟨chainId, rpcUrl, traceUrl, chain⟩
    inspection := {
      cadence := cadence
      enableTrace := wantsTrace && traceUrl.isSome
      networkSaving := (env.networkSaving <|> file.inspection.networkSaving).getD false
      proxyUrl := proxyUrl }
    localMode := localMode
    fleet := {
      dockerProgram :=
        (env.dockerProgram <|> file.containers.dockerProgram).getD Fallback.dockerProgram
      policy := {
        resources := resources
        log := log
        pullImages := (env.pullImages <|> file.containers.pullImages).getD true
        jsonRpcPort := jsonRpcPort }
      infrastructure := {
        networkName := file.containers.networkName.getD Fallback.networkName
        scanner := {
          name := file.containers.scannerName.getD Fallback.scannerName
          image := scannerImage
          env := file.containers.scannerEnv }
        jsonRpcProxy := {
          name := jsonRpcName
          image := jsonRpcImage
          env := file.containers.jsonRpcEnv } } }
    server := {
      host := (env.serverHost <|> file.server.host).getD Fallback.serverHost
      port := (env.serverPort <|> file.server.port).getD Fallback.serverPort }
    provenance := ⟨path, false, cadenceSource⟩ }
  pure (config, warnings)

end Config

end NodeKeeper
