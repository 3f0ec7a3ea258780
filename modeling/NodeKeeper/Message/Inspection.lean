/-
# What an inspection is given and what it finds
-/
import NodeKeeper.Json.Decode

namespace NodeKeeper

open Json

/-- What an inspection looks at. -/
structure InspectionInputs where
  block : UInt64
  scanUrl : String
  proxyUrl : String
  traceUrl : Option String
  checkTrace : Bool
  networkSaving : Bool
  deriving DecidableEq, Repr

namespace InspectionInputs

def toJson (i : InspectionInputs) : Value :=
  .object <|
    [("block_number", .integer i.block.toNat),
     ("scan_api_url", .text i.scanUrl),
     ("proxy_api_url", .text i.proxyUrl)] ++
    (i.traceUrl.map fun u => ("trace_api_url", Value.text u)).toList ++
    [("check_trace", .bool i.checkTrace),
     ("network_saving_mode", .bool i.networkSaving)]

def fieldNames : List String :=
  ["block_number", "scan_api_url", "proxy_api_url", "trace_api_url", "check_trace",
   "network_saving_mode"]

def decoder : Decoder InspectionInputs := fun t => do
  match ← Decode.fields fieldNames t with
  | [block, scanUrl, proxyUrl, traceUrl, checkTrace, networkSaving] =>
    pure {
      block := ← Decode.required Decode.u64 block
      scanUrl := ← Decode.required Decode.text scanUrl
      proxyUrl := ← Decode.required Decode.text proxyUrl
      traceUrl := ← Decode.defaulted none (Decode.option Decode.text) traceUrl
      checkTrace := ← Decode.required Decode.bool checkTrace
      networkSaving := ← Decode.defaulted false Decode.bool networkSaving }
  | _ => none

end InspectionInputs

/-- What an inspection found: numbers and texts by name. -/
structure InspectionResults where
  inputs : InspectionInputs
  indicators : Dictionary Float
  metadata : Dictionary String
  inspectedAt : Timestamp

namespace InspectionResults

/-- Results without findings. -/
def start (inputs : InspectionInputs) (now : Timestamp) : InspectionResults :=
  ⟨inputs, .empty, .empty, now⟩

def setIndicator (r : InspectionResults) (name : String) (x : Float) : InspectionResults :=
  { r with indicators := r.indicators.put name x }

/-- A finding that holds or does not: one or zero. -/
def setFlag (r : InspectionResults) (name : String) (holds : Bool) : InspectionResults :=
  r.setIndicator name (if holds then 1.0 else 0.0)

def setMetadata (r : InspectionResults) (name text : String) : InspectionResults :=
  { r with metadata := r.metadata.put name text }

def indicator? (r : InspectionResults) (name : String) : Option Float :=
  r.indicators.get? name

def toJson (r : InspectionResults) : Value :=
  .object
    [("inputs", r.inputs.toJson),
     ("indicators", .object (r.indicators.entries.map fun (k, x) => (k, .float x))),
     ("metadata", .object (r.metadata.entries.map fun (k, s) => (k, .text s))),
     ("inspected_at", .text r.inspectedAt.text)]

def decoder : Decoder InspectionResults := fun t => do
  match ← Decode.fields ["inputs", "indicators", "metadata", "inspected_at"] t with
  | [inputs, indicators, metadata, inspectedAt] =>
    pure {
      inputs := ← Decode.required InspectionInputs.decoder inputs
      indicators := ← Decode.defaulted .empty (Decode.dictionary Decode.double) indicators
      metadata := ← Decode.defaulted .empty (Decode.dictionary Decode.text) metadata
      inspectedAt := ← Decode.required Decode.timestamp inspectedAt }
  | _ => none

end InspectionResults

end NodeKeeper
