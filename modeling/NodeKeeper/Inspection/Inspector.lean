/-
# The inspector

Turns block progress into inspections.  The inspector holds the slot of the
pending block, the clock of the last progress and its last error.  Once
started it has a worker, which inspects the blocks from the slot one after the
other, and a watchdog, which looks at the clock at regular times and asks the
chain while progress is silent.  Both end when the token they were started with
is cancelled; the worker takes the receiving end of the slot with it.

Worker and watchdog are machines; a step of one happens at a point in time and
may change the inspector and act on its surroundings.
-/
import NodeKeeper.Failure
import NodeKeeper.Health.Report
import NodeKeeper.Inspection.Probe
import NodeKeeper.Inspection.Slot
import NodeKeeper.Inspection.Trial
import NodeKeeper.Inspection.Watchdog
import NodeKeeper.Message.Progress
import NodeKeeper.Message.Subject

namespace NodeKeeper

structure Inspector where
  settings : InspectionSettings
  slot : PendingSlot
  clock : WatchdogClock
  lastError : ErrorRecord

namespace Inspector

def idle (s : InspectionSettings) : Inspector := ⟨s, .empty, .unheard, .clear⟩

/-- Offers a block to the slot. -/
def trigger (i : Inspector) (block : UInt64) : TriggerOutcome × Inspector :=
  let (outcome, slot) := i.slot.offer block
  (outcome, { i with slot := slot })

/-- Notes block progress, and offers a block if the progress calls for it. -/
def heed (i : Inspector) (now : Instant) (p : Progress) : Option TriggerOutcome × Inspector :=
  let i := { i with clock := .signal now }
  match i.settings.targetBlock p.received with
  | none => (none, i)
  | some block =>
    let (outcome, i) := i.trigger block
    (some outcome, i)

/-- What a message about block progress does; one that cannot be read does
nothing. -/
def heedMessage (i : Inspector) (now : Instant) (payload : List UInt8) :
    Except BusError Unit × Inspector :=
  match Json.decode Progress.decoder payload with
  | none => (.error (.decode Subject.scannerBlock), i)
  | some p => (.ok (), (i.heed now p).2)

/-- Takes out the pending block while no worker has the receiving end. -/
def takePending (i : Inspector) : Option UInt64 × Inspector :=
  let (block, slot) := i.slot.tryTake
  (block, { i with slot := slot })

/-- Notes how an inspection ended; a cancelled one leaves no trace. -/
def conclude (i : Inspector) (clockTime : Timestamp) : Except InspectionError Unit → Inspector
  | .ok () => { i with lastError := .clear }
  | .error .cancelled => i
  | .error e => { i with lastError := .keep e.message clockTime }

/-- The watchdog's look at the clock: is it time to ask the chain? -/
def isSilent (i : Inspector) (now : Instant) : Bool :=
  i.clock.isSilent now i.settings.silenceThreshold

/-- What a settled question to the chain leads to. -/
def afterProbe (i : Inspector) : Option UInt64 → Option TriggerOutcome × Inspector
  | none => (none, i)
  | some block =>
    let (outcome, i) := i.trigger block
    (some outcome, i)

/-- Whether inspector and bus let it be started, up to the spawning of worker
and watchdog.  A disabled inspector is not started.  When the bus refuses the
subscription the receiving end is lost. -/
def start (i : Inspector) (subscribe : Except BusError Unit) :
    Except Failure Bool × Inspector :=
  if ¬ i.settings.enabled then (.ok false, i)
  else
    match i.slot.takeReceiver with
    | (false, _) => (.error (.inspection .alreadyStarted), i)
    | (true, slot) =>
      match subscribe with
      | .ok () => (.ok true, { i with slot := slot })
      | .error e => (.error (.bus e), { i with slot := slot.dropReceiver })

/-- The inspector's health. -/
def health (i : Inspector) : Reporter := ⟨"inspector", [i.lastError.report "last-error"]⟩

/-- The inspector shown for diagnostics, with the number of tasks it holds. -/
def shown (i : Inspector) (now : Instant) (tasks : Nat) : String :=
  Text.shownRecord "InspectionScheduler"
    [("cadence", toString i.settings.cadence.toNat),
     ("check_trace", Text.shownBool i.settings.checkTrace),
     ("slot", i.slot.shown),
     ("silent_for", Text.shownOption ((i.clock.silentFor now).map Duration.text)),
     ("last_error", Text.shownOption (i.lastError.text?.map Text.quoted)),
     ("tasks", Text.shownOption (some (toString tasks)))]

end Inspector

/-- The worker between two steps. -/
inductive Worker where
  /-- waits for a block -/
  | waiting
  | inspecting (t : Trial)
  | gone

/-- The watchdog between two steps. -/
inductive Watchdog where
  /-- not yet run -/
  | fresh
  /-- the point in time of its next look at the clock -/
  | sleeping (next : Instant)
  /-- asks the chain; it looks at the clock again at the given point in time -/
  | probing (p : ChainProbe) (next : Instant)
  | gone

namespace Watchdog

/-- When to look again after a look that was due at one time and came at
another.  A look more than five milliseconds late moves the later ones. -/
def nextLook (s : InspectionSettings) (due now : Instant) : Instant :=
  if due + 5000000 < now then now + timerSpan s.watchdogInterval
  else due + timerSpan s.watchdogInterval

def timers : Watchdog → List Tick
  | .sleeping next => [dueAt next]
  | .probing p _ => p.timers
  | _ => []

end Watchdog

def Worker.timers : Worker → List Tick
  | .inspecting t => t.timers
  | _ => []

end NodeKeeper
