/-
# The fleet shown for diagnostics
-/
import NodeKeeper.Fleet.Session
import NodeKeeper.Health.Report
import NodeKeeper.Text.Shown

namespace NodeKeeper

open Text

def Resources.shown (r : Resources) : String :=
  shownRecord "AgentResources"
    [("max_cpus", shownOption (r.maxCpus.map shownDouble)),
     ("max_memory_mib", shownOption (r.maxMemoryMib.map fun n => toString n.toNat))]

def LogRotation.shown (l : LogRotation) : String :=
  shownRecord "LogRotation"
    [("max_size", quoted l.maxSize), ("max_files", toString l.maxFiles.toNat)]

def FleetPolicy.shown (p : FleetPolicy) : String :=
  shownRecord "FleetPolicy"
    [("resources", p.resources.shown), ("log", p.log.shown),
     ("pull_images", shownBool p.pullImages), ("json_rpc_port", toString p.jsonRpcPort.toNat)]

/-- A supervisor; the size of its table is known unless a request holds it. -/
def Supervisor.shown (s : Supervisor) (tableSize : Option Nat) : String :=
  shownRecord "FleetSupervisor"
    [("table_len", shownOption (tableSize.map toString)),
     ("scanner", quoted s.scanner.name), ("json_rpc", quoted s.jsonRpc.name),
     ("policy", s.policy.shown)]

/-- The health of a fleet with a number of containers. -/
def Supervisor.health (count : Nat) (now : Timestamp) : Reporter :=
  ⟨"fleet", [.info "containers" (toString count) now]⟩

end NodeKeeper
