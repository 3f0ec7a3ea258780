/-
# Known chains

What the node knows about a chain: how often its data is inspected, and whether
its endpoints are expected to offer traces.
-/
import NodeKeeper.Json.Value

namespace NodeKeeper

structure ChainSettings where
  id : UInt64
  name : String
  /-- the blocks between two inspections -/
  inspectionInterval : UInt64
  enableTrace : Bool
  deriving DecidableEq, Repr

namespace ChainSettings

/-- The chains with settings of their own. -/
def table : List ChainSettings :=
  [⟨1, "ethereum", 50, true⟩,
   ⟨10, "optimism", 1000, false⟩,
   ⟨56, "bsc", 250, false⟩,
   ⟨137, "polygon", 250, false⟩,
   ⟨250, "fantom", 500, false⟩,
   ⟨42161, "arbitrum", 1000, false⟩,
   ⟨43114, "avalanche", 250, false⟩]

/-- The settings of a chain in the table. -/
def known? (id : UInt64) : Option ChainSettings := table.find? (·.id == id)

/-- The settings of any chain. -/
def ofId (id : UInt64) : ChainSettings := (known? id).getD ⟨id, "default", 250, false⟩

open Json in
def toJson (c : ChainSettings) : Value :=
  .object
    [("chain_id", .integer c.id.toNat), ("name", .text c.name),
     ("inspection_interval", .integer c.inspectionInterval.toNat),
     ("enable_trace", .bool c.enableTrace)]

end ChainSettings

end NodeKeeper
