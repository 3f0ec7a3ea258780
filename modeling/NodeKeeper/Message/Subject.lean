/-
# Subjects of messages
-/
namespace NodeKeeper.Subject

/-- Start these agents. -/
def agentsRun : String := "agents:run"

/-- Stop these agents. -/
def agentsStop : String := "agents:stop"

/-- These agents are running. -/
def agentsRunning : String := "agents:status:running"

/-- These agents were stopped. -/
def agentsStopped : String := "agents:status:stopped"

/-- The scanner has reached a block. -/
def scannerBlock : String := "scanner:block"

/-- An inspection has results. -/
def inspectionDone : String := "inspection:done"

/-- Every subject the node uses. -/
def all : List String :=
  [agentsRun, agentsStop, agentsRunning, agentsStopped, scannerBlock, inspectionDone]

end NodeKeeper.Subject
