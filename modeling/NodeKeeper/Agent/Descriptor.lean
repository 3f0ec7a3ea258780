/-
# Agents

An agent is named by an identifier and runs an image.  The name of its
container and the port it serves on depend on the digest of the identifier
alone, so every request about an agent finds the same container.
-/
import NodeKeeper.Agent.Digest
import NodeKeeper.Json.Decode
import NodeKeeper.Json.Write

namespace NodeKeeper

open Json

structure Agent where
  id : String
  image : String
  deriving DecidableEq, Repr

namespace Agent

/-- What the name of every agent's container begins with. -/
def containerPrefix : String := "vigil-agent"

/-- The lowest port of an agent. -/
def portBase : Nat := 50051

/-- How many ports agents are spread over. -/
def portSpan : Nat := 1000

/-- The digest of the identifier. -/
def digest (a : Agent) : List UInt8 := Digest.ofBytes (utf8 a.id)

/-- The name of the agent's container: the common beginning and twelve
hexadecimal digits. -/
def containerName (a : Agent) : String :=
  containerPrefix ++ "-" ++ Text.hexOfBytes (a.digest.take 6)

/-- The port the agent serves on. -/
def port (a : Agent) : Nat :=
  match a.digest with
  | high :: low :: _ => portBase + (high.toNat * 256 + low.toNat) % portSpan
  | _ => portBase

def toJson (a : Agent) : Value :=
  .object [("id", .text a.id), ("image", .text a.image)]

def decoder : Decoder Agent := fun t => do
  match ← Decode.fields ["id", "image"] t with
  | [id, image] =>
    pure ⟨← Decode.required Decode.text id, ← Decode.required Decode.text image⟩
  | _ => none

/-- A batch of agents as sent in a message. -/
def batchToJson (batch : List Agent) : Value := .array (batch.map toJson)

def batchDecoder : Decoder (List Agent) := Decode.list decoder

end Agent

end NodeKeeper
