/-
# Block progress

What the scanner says about its progress along the chain.
-/
import NodeKeeper.Json.Decode

namespace NodeKeeper

open Json

structure Progress where
  /-- the latest block received from the chain -/
  received : UInt64
  /-- the latest block handed to the agents -/
  handedOn : UInt64
  observedAt : Option Timestamp
  deriving DecidableEq

namespace Progress

/-- A member that is left out when there is no value. -/
def toJson (p : Progress) : Value :=
  .object <|
    [("latest_block_input", .integer p.received.toNat),
     ("latest_block_output", .integer p.handedOn.toNat)] ++
    (p.observedAt.map fun t => ("observed_at", Value.text t.text)).toList

def decoder : Decoder Progress := fun t => do
  match ← Decode.fields ["latest_block_input", "latest_block_output", "observed_at"] t with
  | [received, handedOn, observedAt] =>
    pure {
      received := ← Decode.required Decode.u64 received
      handedOn := ← Decode.defaulted 0 Decode.u64 handedOn
      observedAt := ← Decode.defaulted none (Decode.option Decode.timestamp) observedAt }
  | _ => none

end Progress

end NodeKeeper
