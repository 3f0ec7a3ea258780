/-
# The environment lies over the file

Twenty settings can be set by a variable of the environment as well as in the
file.  `FileLayer.overlay` puts what the environment has in the place of what
the file has, and nothing else:

    compose file env  =  compose (file overlaid with env) (no environment)

So it does not matter in which layer a value stands, also not for what is
derived from several settings, for the order of the checks and for the
warnings.

**One setting at a time.**  `Overridable` is a setting with its variable and its
place in each layer.  Setting its variable is setting it in the environment
(`ofLookup_setVariable`), and that is setting it in the file
(`overlay_setEnv`).  The rows of `Overridable.all` are the twenty settings; each
brings the proof of these two facts.
-/
import NodeKeeper.Config.Compose

namespace NodeKeeper

/-! ## The overlay -/

/-- The settings of a file, with those that the environment has in their
places. -/
def FileLayer.overlay (file : FileLayer) (env : EnvLayer) : FileLayer := {
  chain := {
    id := env.chainId <|> file.chain.id
    rpcUrl := env.chainRpcUrl <|> file.chain.rpcUrl
    traceUrl := env.traceRpcUrl <|> file.chain.traceUrl }
  inspection := {
    blockInterval := env.blockInterval <|> file.inspection.blockInterval
    enableTrace := env.enableTrace <|> file.inspection.enableTrace
    networkSaving := env.networkSaving <|> file.inspection.networkSaving
    proxyUrl := env.proxyUrl <|> file.inspection.proxyUrl }
  localMode := {
    enable := env.localMode <|> file.localMode.enable
    enableInspection := env.localModeInspection <|> file.localMode.enableInspection }
  resources := {
    maxCpus := env.maxCpus <|> file.resources.maxCpus
    maxMemoryMib := env.maxMemoryMib <|> file.resources.maxMemoryMib }
  log := {
    maxSize := env.logMaxSize <|> file.log.maxSize
    maxFiles := env.logMaxFiles <|> file.log.maxFiles }
  containers := { file.containers with
    dockerProgram := env.dockerProgram <|> file.containers.dockerProgram
    pullImages := env.pullImages <|> file.containers.pullImages
    scannerImage := env.scannerImage <|> file.containers.scannerImage
    jsonRpcImage := env.jsonRpcImage <|> file.containers.jsonRpcImage
    jsonRpcPort := env.jsonRpcPort <|> file.containers.jsonRpcPort }
  server := {
    host := env.serverHost <|> file.server.host
    port := env.serverPort <|> file.server.port } }

/-- A value of the environment counts before one of the file, and that before
the usual one. -/
theorem orElse_assoc {α : Type} (a b c : Option α) : (a <|> b <|> c) = ((a <|> b) <|> c) := by
  cases a with
  | none => rfl
  | some _ => rfl

theorem Config.compose_overlay (file? : Option FileLayer) (env : EnvLayer) (path : Option String) :
    compose file? env path = compose (some ((file?.getD .empty).overlay env)) .empty path := by
  simp only [compose, orElse_assoc]
  rfl

/-! ## One setting at a time -/

namespace Setting

@[simp] def switch? (raw : Option String) : Option Bool := (text? raw).bind bool?

@[simp] def u64? (raw : Option String) : Option UInt64 :=
  (unsigned? Number.maxU64 raw).map Nat.toUInt64

@[simp] def u32? (raw : Option String) : Option UInt32 :=
  (unsigned? Number.maxU32 raw).map Nat.toUInt32

@[simp] def u16? (raw : Option String) : Option UInt16 :=
  (unsigned? Number.maxU16 raw).map Nat.toUInt16

end Setting

/-- The variables, with one of them set or unset. -/
def setVariable (lookup : String → Option String) (name : String) (raw : Option String) :
    String → Option String :=
  fun other => if name = other then raw else lookup other

/-- A setting that both layers have. -/
structure Overridable where
  {Value : Type}
  /-- the variable that holds it -/
  name : String
  /-- what the text of the variable says -/
  read : Option String → Option Value
  inEnv : EnvLayer → Option Value
  setEnv : EnvLayer → Option Value → EnvLayer
  inFile : FileLayer → Option Value
  setFile : FileLayer → Option Value → FileLayer
  read_none : read none = none := by rfl
  /-- the variable holds this setting and no other -/
  ofLookup_setVariable : ∀ lookup raw, EnvLayer.ofLookup (setVariable lookup name raw) =
    setEnv (EnvLayer.ofLookup lookup) (read raw) := by
      intro lookup raw
      simp [EnvLayer.ofLookup, setVariable]
  /-- the environment's value takes the place of the file's if there is one -/
  inFile_overlay : ∀ file env, inFile (file.overlay env) = (inEnv env <|> inFile file) := by
    intro file env
    rfl
  /-- what is set in the environment may as well be set in the file -/
  overlay_setEnv : ∀ file env v, file.overlay (setEnv env v) =
    (setFile file (v <|> inFile file)).overlay (setEnv env none) := by
      intro file env v
      rfl

namespace Overridable

/-- The settings that a variable can override. -/
def all : List Overridable :=
  [{ name := "VIGIL_CHAIN_ID", read := Setting.u64?
     inEnv := (·.chainId), setEnv := fun e v => { e with chainId := v }
     inFile := (·.chain.id), setFile := fun f v => { f with chain.id := v } },
   { name := "VIGIL_CHAIN_RPC_URL", read := Setting.text?
     inEnv := (·.chainRpcUrl), setEnv := fun e v => { e with chainRpcUrl := v }
     inFile := (·.chain.rpcUrl), setFile := fun f v => { f with chain.rpcUrl := v } },
   { name := "VIGIL_TRACE_RPC_URL", read := Setting.text?
     inEnv := (·.traceRpcUrl), setEnv := fun e v => { e with traceRpcUrl := v }
     inFile := (·.chain.traceUrl), setFile := fun f v => { f with chain.traceUrl := v } },
   { name := "VIGIL_INSPECTION_BLOCK_INTERVAL", read := Setting.u64?
     inEnv := (·.blockInterval), setEnv := fun e v => { e with blockInterval := v }
     inFile := (·.inspection.blockInterval)
     setFile := fun f v => { f with inspection.blockInterval := v } },
   { name := "VIGIL_INSPECTION_ENABLE_TRACE", read := Setting.switch?
     inEnv := (·.enableTrace), setEnv := fun e v => { e with enableTrace := v }
     inFile := (·.inspection.enableTrace)
     setFile := fun f v => { f with inspection.enableTrace := v } },
   { name := "VIGIL_NETWORK_SAVING_MODE", read := Setting.switch?
     inEnv := (·.networkSaving), setEnv := fun e v => { e with networkSaving := v }
     inFile := (·.inspection.networkSaving)
     setFile := fun f v => { f with inspection.networkSaving := v } },
   { name := "VIGIL_PROXY_URL", read := Setting.text?
     inEnv := (·.proxyUrl), setEnv := fun e v => { e with proxyUrl := v }
     inFile := (·.inspection.proxyUrl), setFile := fun f v => { f with inspection.proxyUrl := v } },
   { name := "VIGIL_LOCAL_MODE", read := Setting.switch?
     inEnv := (·.localMode), setEnv := fun e v => { e with localMode := v }
     inFile := (·.localMode.enable), setFile := fun f v => { f with localMode.enable := v } },
   { name := "VIGIL_LOCAL_MODE_INSPECTION", read := Setting.switch?
     inEnv := (·.localModeInspection), setEnv := fun e v => { e with localModeInspection := v }
     inFile := (·.localMode.enableInspection)
     setFile := fun f v => { f with localMode.enableInspection := v } },
   { name := "VIGIL_AGENT_MAX_CPUS", read := Setting.double?
     inEnv := (·.maxCpus), setEnv := fun e v => { e with maxCpus := v }
     inFile := (·.resources.maxCpus), setFile := fun f v => { f with resources.maxCpus := v } },
   { name := "VIGIL_AGENT_MAX_MEMORY_MIB", read := Setting.u64?
     inEnv := (·.maxMemoryMib), setEnv := fun e v => { e with maxMemoryMib := v }
     inFile := (·.resources.maxMemoryMib)
     setFile := fun f v => { f with resources.maxMemoryMib := v } },
   { name := "VIGIL_LOG_MAX_SIZE", read := Setting.text?
     inEnv := (·.logMaxSize), setEnv := fun e v => { e with logMaxSize := v }
     inFile := (·.log.maxSize), setFile := fun f v => { f with log.maxSize := v } },
   { name := "VIGIL_LOG_MAX_FILES", read := Setting.u32?
     inEnv := (·.logMaxFiles), setEnv := fun e v => { e with logMaxFiles := v }
     inFile := (·.log.maxFiles), setFile := fun f v => { f with log.maxFiles := v } },
   { name := "VIGIL_DOCKER_BIN", read := Setting.text?
     inEnv := (·.dockerProgram), setEnv := fun e v => { e with dockerProgram := v }
     inFile := (·.containers.dockerProgram)
     setFile := fun f v => { f with containers.dockerProgram := v } },
   { name := "VIGIL_PULL_IMAGES", read := Setting.switch?
     inEnv := (·.pullImages), setEnv := fun e v => { e with pullImages := v }
     inFile := (·.containers.pullImages)
     setFile := fun f v => { f with containers.pullImages := v } },
   { name := "VIGIL_SCANNER_IMAGE", read := Setting.text?
     inEnv := (·.scannerImage), setEnv := fun e v => { e with scannerImage := v }
     inFile := (·.containers.scannerImage)
     setFile := fun f v => { f with containers.scannerImage := v } },
   { name := "VIGIL_JSON_RPC_IMAGE", read := Setting.text?
     inEnv := (·.jsonRpcImage), setEnv := fun e v => { e with jsonRpcImage := v }
     inFile := (·.containers.jsonRpcImage)
     setFile := fun f v => { f with containers.jsonRpcImage := v } },
   { name := "VIGIL_JSON_RPC_PORT", read := Setting.u16?
     inEnv := (·.jsonRpcPort), setEnv := fun e v => { e with jsonRpcPort := v }
     inFile := (·.containers.jsonRpcPort)
     setFile := fun f v => { f with containers.jsonRpcPort := v } },
   { name := "VIGIL_SERVER_HOST", read := Setting.text?
     inEnv := (·.serverHost), setEnv := fun e v => { e with serverHost := v }
     inFile := (·.server.host), setFile := fun f v => { f with server.host := v } },
   { name := "VIGIL_SERVER_PORT", read := Setting.u16?
     inEnv := (·.serverPort), setEnv := fun e v => { e with serverPort := v }
     inFile := (·.server.port), setFile := fun f v => { f with server.port := v } }]

/-- A variable that holds none of the settings may hold the path of the file, and
nothing else. -/
theorem ofLookup_setVariable_other {name : String} (hname : name ∉ all.map (·.name))
    (lookup : String → Option String) (raw : Option String) :
    ∃ path, EnvLayer.ofLookup (setVariable lookup name raw) =
      { EnvLayer.ofLookup lookup with configPath := path } := by
  refine ⟨(EnvLayer.ofLookup (setVariable lookup name raw)).configPath, ?_⟩
  simp only [all, List.map_cons, List.map_nil, List.mem_cons, List.not_mem_nil, not_or,
    or_false] at hname
  simp [EnvLayer.ofLookup, setVariable, hname]

end Overridable

/-- **The environment overrides the file.**  A configuration composed from a file
and an environment is the one composed from the file with the environment laid
over it: the same configuration with the same warnings, or the same error.  Each
of the twenty settings is taken from the environment just when it is there.  So a
variable that holds one of them does what writing its value into the file does,
and a variable that holds none does nothing. -/
theorem environment_overrides (file? : Option FileLayer) (env : EnvLayer) (path : Option String) :
    Config.compose file? env path =
      Config.compose (some ((file?.getD .empty).overlay env)) .empty path ∧
    (Overridable.all.length = 20 ∧ ∀ s ∈ Overridable.all,
      s.inFile ((file?.getD .empty).overlay env) = (s.inEnv env <|> s.inFile (file?.getD .empty))) ∧
    (∀ s ∈ Overridable.all, ∀ lookup raw,
      Config.compose file? (.ofLookup (setVariable lookup s.name raw)) path =
        Config.compose
          (some (s.setFile (file?.getD .empty) (s.read raw <|> s.inFile (file?.getD .empty))))
          (.ofLookup (setVariable lookup s.name none)) path) ∧
    ∀ name ∉ Overridable.all.map (·.name), ∀ lookup raw,
      Config.compose file? (.ofLookup (setVariable lookup name raw)) path =
        Config.compose file? (.ofLookup lookup) path := by
  refine ⟨Config.compose_overlay file? env path, ⟨rfl, fun s _ => s.inFile_overlay _ env⟩, ?_, ?_⟩
  · intro s _ lookup raw
    rw [s.ofLookup_setVariable, s.ofLookup_setVariable, s.read_none, Config.compose_overlay,
      s.overlay_setEnv]
    exact (Config.compose_overlay (some _) _ path).symm
  · intro name hname lookup raw
    obtain ⟨configPath, henv⟩ := Overridable.ofLookup_setVariable_other hname lookup raw
    rw [henv]
    rfl

namespace SecondChain

/-- The file says that the chain is 1. -/
def file : FileLayer := { FileLayer.empty with chain.id := some 1 }

/-- The environment has the address of the chain. -/
def addressed : String → Option String :=
  setVariable (fun _ => none) "VIGIL_CHAIN_RPC_URL" (some "http://localhost:8545")

/-- And it says that the chain is 137. -/
def env : EnvLayer := .ofLookup (setVariable addressed "VIGIL_CHAIN_ID" (some " 137 "))

end SecondChain

/-- The chain is 137, as if the file had said so. -/
theorem environment_overrides_chain :
    (Config.compose (some SecondChain.file) SecondChain.env none).toOption.map (·.1.chain.id) =
      some 137 ∧
    Config.compose (some SecondChain.file) SecondChain.env none =
      Config.compose (some { SecondChain.file with chain.id := some 137 })
        (.ofLookup SecondChain.addressed) none := by
  have hsame := (environment_overrides (some SecondChain.file) .empty none).2.2.1 _
    List.mem_cons_self SecondChain.addressed (some " 137 ")
  exact ⟨by decide +kernel, hsame⟩

end NodeKeeper
