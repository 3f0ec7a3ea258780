/-
# Settings of the inspector
-/
import NodeKeeper.Inspection.Backoff
import NodeKeeper.Message.Inspection

namespace NodeKeeper

structure InspectionSettings where
  /-- every how many blocks one is inspected -/
  cadence : UInt64
  checkTrace : Bool
  scanUrl : String
  proxyUrl : String
  traceUrl : Option String
  networkSaving : Bool
  /-- whether the inspector is started at all -/
  enabled : Bool
  retry : RetryPolicy
  attemptTimeout : Duration
  watchdogInterval : Duration
  /-- how long block progress may fail to arrive -/
  silenceThreshold : Duration
  probeTimeout : Duration

namespace InspectionSettings

/-- Enabled settings without trace checks. -/
def standard (cadence : UInt64) (scanUrl proxyUrl : String) : InspectionSettings := {
  cadence := cadence
  checkTrace := false
  scanUrl := scanUrl
  proxyUrl := proxyUrl
  traceUrl := none
  networkSaving := false
  enabled := true
  retry := .standard
  attemptTimeout := .ofSecs 120
  watchdogInterval := .ofSecs 1
  silenceThreshold := .ofSecs 600
  probeTimeout := .ofSecs 10 }

/-- The block to inspect when the scanner has reached a block: one cadence
below it, if it is a positive multiple of the cadence. -/
def targetBlock (s : InspectionSettings) (latest : UInt64) : Option UInt64 :=
  if s.cadence = 0 ∨ latest = 0 ∨ latest % s.cadence ≠ 0 then none
  else some (latest - s.cadence)

/-- Is the block a multiple of a cadence that is not zero? -/
def isInspectionBlock (s : InspectionSettings) (block : UInt64) : Bool :=
  s.cadence != 0 && block % s.cadence == 0

/-- What an inspection of a block is given.  The trace endpoint is passed on
only if traces are checked. -/
def inputsFor (s : InspectionSettings) (block : UInt64) : InspectionInputs := {
  block := block
  scanUrl := s.scanUrl
  proxyUrl := s.proxyUrl
  traceUrl := if s.checkTrace then s.traceUrl else none
  checkTrace := s.checkTrace
  networkSaving := s.networkSaving }

end InspectionSettings

end NodeKeeper
