/-
# Resource limits of an agent

What the operator allows an agent, and the limits its container is started
with.  A setting that is absent or not positive means no limit.
-/
import NodeKeeper.Json.Decode
import NodeKeeper.Number.Integer

namespace NodeKeeper

open Json Number

/-- What one agent may use. -/
structure Resources where
  /-- processors, in fractions; unbounded if absent -/
  maxCpus : Option Float
  /-- memory in units of 2 ^ 20 bytes; unbounded if absent -/
  maxMemoryMib : Option UInt64

namespace Resources

def standard : Resources := ⟨some 0.5, some 1024⟩

def toJson (r : Resources) : Value :=
  .object
    [("max_cpus", (r.maxCpus.map Value.float).getD .null),
     ("max_memory_mib", (r.maxMemoryMib.map fun n => Value.integer n.toNat).getD .null)]

def decoder : Decoder Resources := fun t => do
  match ← Decode.fields ["max_cpus", "max_memory_mib"] t with
  | [cpus, memory] =>
    pure ⟨← Decode.nullable t Decode.double cpus, ← Decode.nullable t Decode.u64 memory⟩
  | _ => none

end Resources

/-- The limits a container is started with. -/
structure Limits where
  /-- processor time in microseconds for each 100 milliseconds -/
  cpuQuota : Option Int
  memoryBytes : Option Int
  deriving DecidableEq, Repr

namespace Limits

/-- Microseconds in the period of a quota. -/
def cpuPeriod : Float := 100000.0

/-- The quota for a number of processors: the nearest whole one, at most the
largest signed 64-bit number, and none if that is zero. -/
def cpuQuotaFor (cpus : Float) : Option Int :=
  if isFinite cpus && 0.0 < cpus then
    let product := cpus * cpuPeriod
    let quota := if isFinite product then min (roundHalfUp product) maxI64 else maxI64
    if 0 < quota then some (quota : Int) else none
  else none

/-- The bytes for a number of mebibytes, if a signed 64-bit number holds them. -/
def memoryBytesFor (mib : UInt64) : Option Int :=
  let bytes := mib.toNat * 1048576
  if 0 < bytes ∧ bytes ≤ maxI64 then some (bytes : Int) else none

def ofResources (r : Resources) : Limits :=
  ⟨r.maxCpus.bind cpuQuotaFor, r.maxMemoryMib.bind memoryBytesFor⟩

end Limits

end NodeKeeper
