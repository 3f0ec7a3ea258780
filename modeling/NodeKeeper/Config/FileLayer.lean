/-
# Settings from a file

The sections of a settings file.  Every section and every setting in it may be
left out, and other sections and settings are ignored.  A section may also be
written as an array of its settings in their order.
-/
import NodeKeeper.Data.Dictionary
import NodeKeeper.Json.Value
import NodeKeeper.Number.Integer
import NodeKeeper.Toml.Document

namespace NodeKeeper

open Number

namespace Toml

/-- The key under which a date shows up where a table is expected. -/
def dateKey : String := "$__toml_private_datetime"

namespace Decode

def text : Value → Option String
  | .text s => some s
  | _ => none

def bool : Value → Option Bool
  | .bool b => some b
  | _ => none

/-- An integer from 0 to `limit`. -/
def unsigned (limit : Nat) : Value → Option Nat
  | .integer n => if 0 ≤ n ∧ n.toNat ≤ limit then some n.toNat else none
  | _ => none

def u64 (v : Value) : Option UInt64 := (unsigned maxU64 v).map Nat.toUInt64

def u32 (v : Value) : Option UInt32 := (unsigned maxU32 v).map Nat.toUInt32

def u16 (v : Value) : Option UInt16 := (unsigned maxU16 v).map Nat.toUInt16

/-- A double, or an integer of 64 bits as the nearest double. -/
def double : Value → Option Float
  | .float x => some x
  | .integer n =>
    if n < -(maxI64 + 1 : Int) ∨ (maxU64 : Int) < n then none
    else some (if n < 0 then -(doubleOfNat n.natAbs) else doubleOfNat n.natAbs)
  | _ => none

/-- A table of texts. -/
def texts : Value → Option (Dictionary String)
  | .table entries => do
    pure (.ofList (← entries.mapM fun (k, v) => do pure (k, ← text v)))
  | .date s => some (.ofList [(dateKey, s)])
  | _ => none

/-- How the settings of a section are found. -/
inductive Section where
  /-- by their names -/
  | named (entries : List (String × Value))
  /-- by their places -/
  | placed (items : List Value)

/-- A section; one that is left out is empty, and a date has no settings. -/
def sectionOf? : Option Value → Option Section
  | none => some (.named [])
  | some (.table entries) => some (.named entries)
  | some (.array items) => some (.placed items)
  | some (.date _) => some (.named [])
  | _ => none

/-- A setting of a section.  It may be left out, but not from an array. -/
def setting {α : Type} (s : Section) (place : Nat) (name : String) (item : Value → Option α) :
    Option (Option α) :=
  match s with
  | .named entries =>
    match entries.lookup name with
    | none => some none
    | some v => (item v).map some
  | .placed items =>
    match items[place]? with
    | none => none
    | some v => (item v).map some

/-- A table of texts in a section; it may be left out. -/
def optionalTexts (s : Section) (place : Nat) (name : String) : Option (Dictionary String) :=
  let v := match s with
    | .named entries => entries.lookup name
    | .placed items => items[place]?
  match v with
  | none => some .empty
  | some v => texts v

end Decode

end Toml

structure ChainSection where
  id : Option UInt64
  rpcUrl : Option String
  traceUrl : Option String

structure InspectionSection where
  blockInterval : Option UInt64
  enableTrace : Option Bool
  networkSaving : Option Bool
  proxyUrl : Option String

structure LocalModeSection where
  enable : Option Bool
  enableInspection : Option Bool

structure ResourcesSection where
  maxCpus : Option Float
  maxMemoryMib : Option UInt64

structure LogSection where
  maxSize : Option String
  maxFiles : Option UInt32

structure ContainersSection where
  dockerProgram : Option String
  pullImages : Option Bool
  networkName : Option String
  scannerName : Option String
  scannerImage : Option String
  scannerEnv : Dictionary String
  jsonRpcName : Option String
  jsonRpcImage : Option String
  jsonRpcPort : Option UInt16
  jsonRpcEnv : Dictionary String

structure ServerSection where
  host : Option String
  port : Option UInt16

/-- The settings found in a file. -/
structure FileLayer where
  chain : ChainSection
  inspection : InspectionSection
  localMode : LocalModeSection
  resources : ResourcesSection
  log : LogSection
  containers : ContainersSection
  server : ServerSection

namespace FileLayer

/-- A file without settings. -/
def empty : FileLayer := {
  chain := ⟨none, none, none⟩
  inspection := ⟨none, none, none, none⟩
  localMode := ⟨none, none⟩
  resources := ⟨none, none⟩
  log := ⟨none, none⟩
  containers := {
    dockerProgram := none, pullImages := none, networkName := none
    scannerName := none, scannerImage := none, scannerEnv := .empty
    jsonRpcName := none, jsonRpcImage := none, jsonRpcPort := none, jsonRpcEnv := .empty }
  server := ⟨none, none⟩ }

open Toml Decode in
/-- The settings in the table of a file. -/
def ofTable? (entries : List (String × Value)) : Option FileLayer := do
  let chain ← Decode.sectionOf? (entries.lookup "chain")
  let inspection ← Decode.sectionOf? (entries.lookup "inspection")
  let localMode ← Decode.sectionOf? (entries.lookup "local_mode")
  let resources ← Decode.sectionOf? (entries.lookup "resources")
  let log ← Decode.sectionOf? (entries.lookup "log")
  let containers ← Decode.sectionOf? (entries.lookup "containers")
  let server ← Decode.sectionOf? (entries.lookup "server")
  pure {
    chain := {
      id := ← setting chain 0 "id" u64
      rpcUrl := ← setting chain 1 "rpc_url" text
      traceUrl := ← setting chain 2 "trace_url" text }
    inspection := {
      blockInterval := ← setting inspection 0 "block_interval" u64
      enableTrace := ← setting inspection 1 "enable_trace" bool
      networkSaving := ← setting inspection 2 "network_saving_mode" bool
      proxyUrl := ← setting inspection 3 "proxy_url" text }
    localMode := {
      enable := ← setting localMode 0 "enable" bool
      enableInspection := ← setting localMode 1 "enable_inspection" bool }
    resources := {
      maxCpus := ← setting resources 0 "max_cpus" double
      maxMemoryMib := ← setting resources 1 "max_memory_mib" u64 }
    log := {
      maxSize := ← setting log 0 "max_size" text
      maxFiles := ← setting log 1 "max_files" u32 }
    containers := {
      dockerProgram := ← setting containers 0 "docker_bin" text
      pullImages := ← setting containers 1 "pull_images" bool
      networkName := ← setting containers 2 "network_name" text
      scannerName := ← setting containers 3 "scanner_name" text
      scannerImage := ← setting containers 4 "scanner_image" text
      scannerEnv := ← optionalTexts containers 5 "scanner_env"
      jsonRpcName := ← setting containers 6 "json_rpc_name" text
      jsonRpcImage := ← setting containers 7 "json_rpc_image" text
      jsonRpcPort := ← setting containers 8 "json_rpc_port" u16
      jsonRpcEnv := ← optionalTexts containers 9 "json_rpc_env" }
    server := {
      host := ← setting server 0 "host" text
      port := ← setting server 1 "port" u16 } }

/-- The settings in the text of a file. -/
def read? (s : String) : Option FileLayer := (Toml.Document.read? s).bind ofTable?

open Json in
/-- The settings that are present. -/
def toJson (f : FileLayer) : Value :=
  let text (k : String) (s : Option String) : List (String × Value) :=
    (s.map fun s => (k, Value.text s)).toList
  let bool (k : String) (b : Option Bool) : List (String × Value) :=
    (b.map fun b => (k, Value.bool b)).toList
  let number (k : String) (n : Option Nat) : List (String × Value) :=
    (n.map fun n => (k, Value.integer n)).toList
  let texts (k : String) (d : Dictionary String) : List (String × Value) :=
    if d.isEmpty then [] else [(k, .object (d.entries.map fun (k, s) => (k, .text s)))]
  .object
    [("chain", .object <|
        number "id" (f.chain.id.map UInt64.toNat) ++ text "rpc_url" f.chain.rpcUrl ++
        text "trace_url" f.chain.traceUrl),
     ("inspection", .object <|
        number "block_interval" (f.inspection.blockInterval.map UInt64.toNat) ++
        bool "enable_trace" f.inspection.enableTrace ++
        bool "network_saving_mode" f.inspection.networkSaving ++
        text "proxy_url" f.inspection.proxyUrl),
     ("local_mode", .object <|
        bool "enable" f.localMode.enable ++
        bool "enable_inspection" f.localMode.enableInspection),
     ("resources", .object <|
        (f.resources.maxCpus.map fun x => ("max_cpus", Value.float x)).toList ++
        number "max_memory_mib" (f.resources.maxMemoryMib.map UInt64.toNat)),
     ("log", .object <|
        text "max_size" f.log.maxSize ++
        number "max_files" (f.log.maxFiles.map UInt32.toNat)),
     ("containers", .object <|
        text "docker_bin" f.containers.dockerProgram ++
        bool "pull_images" f.containers.pullImages ++
        text "network_name" f.containers.networkName ++
        text "scanner_name" f.containers.scannerName ++
        text "scanner_image" f.containers.scannerImage ++
        texts "scanner_env" f.containers.scannerEnv ++
        text "json_rpc_name" f.containers.jsonRpcName ++
        text "json_rpc_image" f.containers.jsonRpcImage ++
        number "json_rpc_port" (f.containers.jsonRpcPort.map UInt16.toNat) ++
        texts "json_rpc_env" f.containers.jsonRpcEnv),
     ("server", .object <|
        text "host" f.server.host ++ number "port" (f.server.port.map UInt16.toNat))]

end FileLayer

end NodeKeeper
