/-
# Calls to a chain

A call names a method and has parameters; its number tells it from the other
calls of the same client.  The reply holds a result or an error of the chain's
own, which comes before the result; `null` counts as no result.
-/
import NodeKeeper.Http.Exchange
import NodeKeeper.Inspection.Quantity
import NodeKeeper.Json.Write
import NodeKeeper.Text.Shown

namespace NodeKeeper

open Json

structure ChainCall where
  number : Nat
  method : String
  params : Value

/-- The body a call is posted with. -/
def ChainCall.toJson (c : ChainCall) : Value :=
  .object
    [("id", .integer c.number),
     ("jsonrpc", .text "2.0"),
     ("method", .text c.method),
     ("params", c.params)]

/-- An error of the chain's own. -/
structure ChainFault where
  code : Int
  message : String

def ChainFault.decoder : Decoder ChainFault := fun t => do
  match ← Decode.fields ["code", "message"] t with
  | [code, message] =>
    pure ⟨← Decode.required Decode.i64 code, ← Decode.required Decode.text message⟩
  | _ => none

structure ChainReply where
  result : Option Value
  fault : Option ChainFault

namespace ChainReply

def decoder : Decoder ChainReply := fun t => do
  match ← Decode.fields ["result", "error"] t with
  | [result, fault] =>
    pure {
      result := ← Decode.defaulted none (Decode.option (Tree.value? (depthLimit - 1))) result
      fault := ← Decode.defaulted none (Decode.option ChainFault.decoder) fault }
  | _ => none

/-- What a reply to a method says. -/
def outcome (method : String) (r : ChainReply) : Except InspectionError Value :=
  match r.fault, r.result with
  | some f, _ =>
    .error (.rpc (method ++ ": " ++ f.message ++ " (" ++ toString f.code ++ ")"))
  | none, some v => .ok v
  | none, none => .error (.rpc (method ++ ": empty result"))

end ChainReply

/-- A client for calls to one address; it numbers its calls from 1. -/
structure ChainClient where
  address : String
  calls : Nat

namespace ChainClient

def new (address : String) : ChainClient := ⟨address, 0⟩

/-- Makes a call and yields its result. -/
def call (c : ChainClient) (method : String) (params : Value) :
    HttpDialogue (Except InspectionError Value × ChainClient) := do
  let c := { c with calls := c.calls + 1 }
  let body := utf8 (ChainCall.toJson ⟨c.calls, method, params⟩).compact
  match ← Http.post c.address body with
  | .error e => pure (.error (.http e.message), c)
  | .ok body =>
    match decode ChainReply.decoder body with
    | none => pure (.error (.http HttpError.malformedBody.message), c)
    | some reply => pure (reply.outcome method, c)

/-- The number a chain gives for its latest block. -/
def latestOf : Value → Except InspectionError UInt64
  | .text s => Quantity.read s
  | v => .error (.rpc ("eth_blockNumber: expected hex string, got " ++ v.compact))

/-- Asks for the number of the latest block. -/
def latestBlock (c : ChainClient) :
    HttpDialogue (Except InspectionError UInt64 × ChainClient) := do
  let (result, c) ← c.call "eth_blockNumber" (.array [])
  pure (result.bind latestOf, c)

/-- The client shown for diagnostics. -/
def shown (c : ChainClient) : String :=
  Text.shownRecord "JsonRpcChainClient" [("url", Text.quoted c.address)]

end ChainClient

end NodeKeeper
