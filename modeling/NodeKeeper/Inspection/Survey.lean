/-
# The survey of the endpoints

An inspection surveys the endpoints the node depends on at one block: the chain
the scanner reads from, the proxy the agents talk to and, if traces are to be
checked, the trace endpoint.  Each endpoint is asked by a client of its own, and
what it reports depends on its own answers alone.  The indicators and the
complaints of an inspection are then read off the three reports, so an endpoint
that fails leaves those of the others as they are.
-/
import NodeKeeper.Chain.Client

namespace NodeKeeper

open Json

/-- What an endpoint says about the block. -/
inductive BlockReport where
  /-- the block's hash and number of transactions, as far as they are told -/
  | found (hash : Option String) (transactions : Option Nat)
  /-- something that is no block -/
  | missing (got : Value)
  | failed (e : InspectionError)

/-- What one endpoint says. -/
inductive EndpointReport where
  | inaccessible (e : InspectionError)
  | accessible (latest : UInt64) (block : BlockReport)

/-- What the trace endpoint says. -/
inductive TraceReport where
  | noAddress
  | traced (count : Nat)
  | unexpected (got : Value)
  /-- the endpoint answered with an error of its own -/
  | refused (e : InspectionError)
  | inaccessible (e : InspectionError)

/-! ## Asking -/

namespace BlockReport

/-- Reads the answer to the question for a block. -/
def ofAnswer (full : Bool) : Except InspectionError Value → BlockReport
  | .error e => .failed e
  | .ok v =>
    match v with
    | .object _ =>
      let hash := match v.member? "hash" with
        | some (.text s) => some s
        | _ => none
      let transactions := match full, v.member? "transactions" with
        | true, some (.array items) => some items.length
        | _, _ => none
      .found hash transactions
    | v => .missing v

end BlockReport

namespace EndpointReport

/-- Asks an endpoint for its latest block and for a block, with the bodies of
its transactions if it is to be full. -/
def ask (address : String) (block : UInt64) (full : Bool) : HttpDialogue EndpointReport := do
  let (latest, client) ← (ChainClient.new address).latestBlock
  match latest with
  | .error e => pure (.inaccessible e)
  | .ok latest =>
    let params := Value.array [.text (Quantity.write block), .bool full]
    let (answer, _) ← client.call "eth_getBlockByNumber" params
    pure (.accessible latest (.ofAnswer full answer))

def latest? : EndpointReport → Option UInt64
  | .inaccessible _ => none
  | .accessible latest _ => some latest

def hash? : EndpointReport → Option String
  | .accessible _ (.found hash _) => hash
  | _ => none

end EndpointReport

namespace TraceReport

/-- Reads the answer to the question for traces. -/
def ofAnswer : Except InspectionError Value → TraceReport
  | .ok (.array items) => .traced items.length
  | .ok v => .unexpected v
  | .error (.rpc text) => .refused (.rpc text)
  | .error e => .inaccessible e

/-- Asks for the traces of a block. -/
def ask (address : Option String) (block : UInt64) : HttpDialogue TraceReport :=
  match address with
  | none => pure .noAddress
  | some address => do
    let params := Value.array [.text (Quantity.write block)]
    let (answer, _) ← (ChainClient.new address).call "trace_block" params
    pure (.ofAnswer answer)

end TraceReport

/-! ## Findings -/

/-- What is read off reports. -/
structure Findings where
  indicators : List (String × Float)
  metadata : List (String × String)
  complaints : List String

namespace Findings

def none : Findings := ⟨[], [], []⟩

def append (a b : Findings) : Findings :=
  ⟨a.indicators ++ b.indicators, a.metadata ++ b.metadata, a.complaints ++ b.complaints⟩

instance : Append Findings := ⟨append⟩

def indicator (name : String) (x : Float) : Findings := ⟨[(name, x)], [], []⟩

/-- One for a flag that is set, zero for one that is not. -/
def flag (name : String) (holds : Bool) : Findings :=
  indicator name (if holds then 1.0 else 0.0)

def note (name text : String) : Findings := ⟨[], [(name, text)], []⟩

def complaint (endpoint text : String) : Findings := ⟨[], [], [endpoint ++ ": " ++ text]⟩

def optional {α : Type} (f : α → Findings) : Option α → Findings
  | .none => none
  | some a => f a

end Findings

open Findings Number

/-- The block in question comes into the text of a complaint. -/
def BlockReport.findings (endpoint : String) (block : UInt64) : BlockReport → Findings
  | .found hash transactions =>
    flag (endpoint ++ ".block_available") true ++
    optional (note (endpoint ++ ".block_hash")) hash ++
    optional (fun n => indicator (endpoint ++ ".block_transactions") (doubleOfNat n)) transactions
  | .missing got =>
    flag (endpoint ++ ".block_available") false ++
    complaint endpoint ("block " ++ toString block.toNat ++ " not available (got " ++
      got.compact ++ ")")
  | .failed e =>
    flag (endpoint ++ ".block_available") false ++ complaint endpoint e.message

def EndpointReport.findings (endpoint : String) (block : UInt64) : EndpointReport → Findings
  | .inaccessible e => flag (endpoint ++ ".accessible") false ++ complaint endpoint e.message
  | .accessible latest b =>
    flag (endpoint ++ ".accessible") true ++
    indicator (endpoint ++ ".latest_block") (doubleOfNat latest.toNat) ++
    b.findings endpoint block

def TraceReport.findings (endpoint : String) : TraceReport → Findings
  | .noAddress => complaint endpoint "trace check requested without a trace url"
  | .traced count =>
    flag (endpoint ++ ".accessible") true ++ flag (endpoint ++ ".supported") true ++
    indicator (endpoint ++ ".traces") (doubleOfNat count)
  | .unexpected got =>
    flag (endpoint ++ ".accessible") true ++ flag (endpoint ++ ".supported") false ++
    complaint endpoint ("unexpected trace_block result " ++ got.compact)
  | .refused e =>
    flag (endpoint ++ ".accessible") true ++ flag (endpoint ++ ".supported") false ++
    complaint endpoint e.message
  | .inaccessible e => flag (endpoint ++ ".accessible") false ++ complaint endpoint e.message

/-- What is read off the reports of scanner and proxy together: how far the
proxy lags behind, and whether both have the same block.  The letters of hashes
may differ in case. -/
def comparison (endpoint : String) (block : UInt64) (scan proxy : EndpointReport) : Findings :=
  let lag := match scan.latest?, proxy.latest? with
    | some s, some p =>
      indicator (endpoint ++ ".lag_blocks") (doubleOfNat s.toNat - doubleOfNat p.toNat)
    | _, _ => .none
  let hashes := match scan.hash?, proxy.hash? with
    | some s, some p =>
      let same := Text.lower s == Text.lower p
      flag (endpoint ++ ".block_hash_match") same ++
      (if same then .none
       else complaint endpoint ("block " ++ toString block.toNat ++ " hash " ++ p ++
         " differs from scan api hash " ++ s))
    | _, _ => .none
  lag ++ hashes

/-- The reports of one inspection. -/
structure Survey where
  scan : EndpointReport
  proxy : EndpointReport
  /-- the report of the trace endpoint, if traces are to be checked -/
  trace : Option TraceReport

namespace Survey

def scanName : String := "scan_api"

def proxyName : String := "proxy_api"

def traceName : String := "trace_api"

/-- Asks the endpoints one after the other.  Blocks are full unless the network
is to be spared. -/
def ask (i : InspectionInputs) : HttpDialogue Survey := do
  let full := !i.networkSaving
  let scan ← EndpointReport.ask i.scanUrl i.block full
  let proxy ← EndpointReport.ask i.proxyUrl i.block full
  let trace ←
    if i.checkTrace then do pure (some (← TraceReport.ask i.traceUrl i.block)) else pure none
  pure ⟨scan, proxy, trace⟩

def findings (i : InspectionInputs) (s : Survey) : Findings :=
  note "network_saving_mode" (Text.shownBool i.networkSaving) ++
  s.scan.findings scanName i.block ++
  s.proxy.findings proxyName i.block ++
  comparison proxyName i.block s.scan s.proxy ++
  optional (TraceReport.findings traceName) s.trace

/-- The results of an inspection with these reports, and an error if there is
anything to complain about. -/
def outcome (i : InspectionInputs) (now : Timestamp) (s : Survey) : InspectionOutcome :=
  let f := s.findings i
  let r := f.indicators.foldl (fun r (name, x) => r.setIndicator name x) (.start i now)
  let r := f.metadata.foldl (fun r (name, text) => r.setMetadata name text) r
  if f.complaints.isEmpty then .success r
  else .incomplete r (.routine (Text.joined "; " f.complaints))

end Survey

/-- Inspects the endpoints. -/
def inspectEndpoints (i : InspectionInputs) (now : Timestamp) :
    HttpDialogue InspectionOutcome := do
  pure ((← Survey.ask i).outcome i now)

end NodeKeeper
