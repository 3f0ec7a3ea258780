/-
# The inspector in virtual time

Runs an inspector with scripted attempts and a scripted chain.  Time stands
still while anybody can go on, and then moves to the earliest timer.  Three
parties take part: a caller who does one thing after the other, the worker and
the watchdog.  Whoever is woken runs until it must wait; the caller goes first,
then the others in the order in which they were woken.
-/
import NodeKeeper.Inspection.Inspector

namespace NodeKeeper

/-- The parties beside the caller. -/
inductive Task where
  | worker
  | watchdog
  deriving DecidableEq, Repr

/-- What attempts and chain do, by their number from 0. -/
structure Script where
  attempt : Nat → InspectionInputs → Attempt
  chain : Nat → ChainAnswer

/-- The state of a simulation. -/
structure Simulation where
  inspector : Inspector
  now : Instant
  /-- the token that worker and watchdog were started with is cancelled -/
  cancelled : Bool
  busClosed : Bool
  /-- the bus has a handler for block progress -/
  subscribed : Bool
  worker : Worker
  watchdog : Watchdog
  /-- the tasks the inspector will wait for when it is shut down -/
  held : List Task
  /-- the tasks that can go on, in the order in which they were woken -/
  ready : List Task
  /-- how often tasks have run, and the number of the last run of each -/
  runs : Nat
  workerRun : Nat
  watchdogRun : Nat
  /-- what the attempts begun so far were given, the last one first -/
  attempts : List InspectionInputs
  chainCalls : Nat
  /-- the results published so far, the last ones first -/
  published : List InspectionResults

namespace Simulation

def start (s : InspectionSettings) : Simulation := {
  inspector := .idle s
  now := 0
  cancelled := false
  busClosed := false
  subscribed := false
  worker := .gone
  watchdog := .gone
  held := []
  ready := []
  runs := 0
  workerRun := 0
  watchdogRun := 0
  attempts := []
  chainCalls := 0
  published := [] }

/-- The time of day; the simulation has no clock on the wall. -/
def wallClock : Timestamp := default

def wake (w : Simulation) (t : Task) : Simulation :=
  if w.ready.contains t then w else { w with ready := w.ready ++ [t] }

/-- Wakes the worker if it waits for a block and one is pending. -/
def wakeForBlock (w : Simulation) : Simulation :=
  match w.worker with
  | .waiting => if w.inspector.slot.pending.isSome then w.wake .worker else w
  | _ => w

def withInspector (w : Simulation) (i : Inspector) : Simulation :=
  wakeForBlock { w with inspector := i }

/-! ## Trials and probes in the simulation -/

/-- Publishes what a finished inspection found and notes how it ended. -/
def conclude (w : Simulation) (results : Option InspectionResults)
    (result : Except InspectionError Unit) : Simulation :=
  let w := { w with inspector := w.inspector.conclude wallClock result }
  if w.busClosed then w else { w with published := results.toList ++ w.published }

/-- Steps a trial until it waits or ends. -/
def runTrial (script : Script) (cancelled : Bool) :
    Nat → Trial → Simulation → Sum Trial (Except InspectionError Unit) × Simulation
  | 0, t, w => (.inl t, w)
  | fuel + 1, t, w =>
    let inputs := w.inspector.settings.inputsFor t.block
    let next := script.attempt w.attempts.length inputs
    match t.step w.inspector.settings w.now cancelled next with
    | .waits => (.inl t, w)
    | .goes t => runTrial script cancelled fuel t w
    | .begins t => runTrial script cancelled fuel t { w with attempts := inputs :: w.attempts }
    | .ends results result => (.inr result, w.conclude results result)

/-- Asks the chain. -/
def ask (script : Script) (w : Simulation) : ChainProbe × Simulation :=
  (.start w.inspector.settings w.now (script.chain w.chainCalls),
   { w with chainCalls := w.chainCalls + 1 })

/-! ## Worker and watchdog -/

/-- The worker runs until it waits. -/
def runWorker (script : Script) : Nat → Simulation → Simulation
  | 0, w => w
  | fuel + 1, w =>
    match w.worker with
    | .gone => w
    | .waiting =>
      if w.cancelled then
        { w with
          worker := .gone
          inspector := { w.inspector with slot := w.inspector.slot.dropReceiver } }
      else
        match w.inspector.slot.receive with
        | (none, _) => w
        | (some block, slot) =>
          runWorker script fuel { w with
            inspector := { w.inspector with slot := slot }
            worker := .inspecting (.start block w.now) }
    | .inspecting t =>
      match w.runTrial script w.cancelled (fuel + 1) t with
      | (.inl t, w) => { w with worker := .inspecting t }
      | (.inr _, w) => runWorker script fuel { w with worker := .waiting }

/-- The watchdog runs until it waits. -/
def runWatchdog (script : Script) : Nat → Simulation → Simulation
  | 0, w => w
  | fuel + 1, w =>
    match w.watchdog with
    | .gone => w
    | .fresh =>
      if w.inspector.settings.watchdogInterval.nanos = 0 then { w with watchdog := .gone }
      else runWatchdog script fuel { w with watchdog := .sleeping w.now }
    | .sleeping due =>
      if w.cancelled then { w with watchdog := .gone }
      else if ¬ isDue w.now (dueAt due) then w
      else
        let next := Watchdog.nextLook w.inspector.settings due w.now
        if w.inspector.isSilent w.now then
          let (p, w) := w.ask script
          runWatchdog script fuel { w with watchdog := .probing p next }
        else runWatchdog script fuel { w with watchdog := .sleeping next }
    | .probing p next =>
      match p.settle? w.inspector.settings w.now with
      | none => w
      | some target =>
        let w := w.withInspector (w.inspector.afterProbe target).2
        runWatchdog script fuel { w with watchdog := .sleeping next }

def runTask (script : Script) (fuel : Nat) (t : Task) (w : Simulation) : Simulation :=
  let w := { w with runs := w.runs + 1 }
  match t with
  | .worker => runWorker script fuel { w with workerRun := w.runs }
  | .watchdog => runWatchdog script fuel { w with watchdogRun := w.runs }

/-- Runs the woken tasks until none is left. -/
def drain (script : Script) : Nat → Simulation → Simulation
  | 0, w => w
  | fuel + 1, w =>
    match w.ready with
    | [] => w
    | t :: rest => drain script fuel (runTask script (fuel + 1) t { w with ready := rest })

/-- Wakes the tasks that have a timer due, the one that set its timer first
first. -/
def wakeDue (w : Simulation) : Simulation :=
  let due (ts : List Tick) : Bool := ts.any (isDue w.now)
  let order : List Task :=
    if w.workerRun ≤ w.watchdogRun then [.worker, .watchdog] else [.watchdog, .worker]
  order.foldl (fun w t =>
    let timers := match t with
      | .worker => w.worker.timers
      | .watchdog => w.watchdog.timers
    if due timers then w.wake t else w) w

/-- Moves time to the earliest timer, those of the caller included.  Does
nothing if there is none. -/
def toNextTimer (callerTimers : List Tick) (w : Simulation) : Simulation :=
  match earliest? (callerTimers ++ w.worker.timers ++ w.watchdog.timers) with
  | none => w
  | some tick => wakeDue { w with now := waitUntil w.now tick }

/-! ## The caller -/

/-- What the caller waits for. -/
inductive Caller where
  | sleeping (tick : Tick)
  | probing (p : ChainProbe)
  /-- an inspection of its own, with a token of its own that a timer cancels -/
  | inspecting (t : Trial) (cancelled : Bool) (cancelAt : Option Tick)
  /-- an inspection that is over; its timer is still to go off -/
  | inspected (result : Except InspectionError Unit) (cancelAt : Tick)
  /-- the end of tasks, up to a limit -/
  | joining (tasks : List Task) (limit : Tick)

/-- What the caller gets. -/
inductive CallerResult where
  | done
  | triggered (outcome : Option TriggerOutcome)
  | inspected (result : Except InspectionError Unit)

def Caller.timers : Caller → List Tick
  | .sleeping tick => [tick]
  | .probing p => p.timers
  | .inspecting t _ cancelAt => t.timers ++ cancelAt.toList
  | .inspected _ cancelAt => [cancelAt]
  | .joining _ limit => [limit]

def isOver (w : Simulation) : Task → Bool
  | .worker => match w.worker with
    | .gone => true
    | _ => false
  | .watchdog => match w.watchdog with
    | .gone => true
    | _ => false

/-- The caller goes on as far as it can. -/
def poll (script : Script) (fuel : Nat) (c : Caller) (w : Simulation) :
    Sum Caller CallerResult × Simulation :=
  match c with
  | .sleeping tick => (if isDue w.now tick then .inr .done else .inl c, w)
  | .probing p =>
    match p.settle? w.inspector.settings w.now with
    | none => (.inl c, w)
    | some target =>
      let (outcome, i) := w.inspector.afterProbe target
      (.inr (.triggered outcome), w.withInspector i)
  | .inspecting t cancelled cancelAt =>
    match w.runTrial script cancelled fuel t with
    | (.inr result, w) =>
      match cancelAt with
      | some tick => (if isDue w.now tick then .inr (.inspected result)
          else .inl (.inspected result tick), w)
      | none => (.inr (.inspected result), w)
    | (.inl t, w) =>
      match cancelAt with
      | some tick =>
        if isDue w.now tick then
          match w.runTrial script true fuel t with
          | (.inr result, w) => (.inr (.inspected result), w)
          | (.inl t, w) => (.inl (.inspecting t true none), w)
        else (.inl (.inspecting t cancelled cancelAt), w)
      | none => (.inl (.inspecting t cancelled none), w)
  | .inspected result tick =>
    (if isDue w.now tick then .inr (.inspected result) else .inl c, w)
  | .joining tasks limit =>
    (if tasks.all w.isOver || isDue w.now limit then .inr .done else .inl c, w)

/-- Runs everybody until the caller has what it waits for. -/
def await (script : Script) : Nat → Caller → Simulation → CallerResult × Simulation
  | 0, _, w => (.done, w)
  | fuel + 1, c, w =>
    match poll script (fuel + 1) c w with
    | (.inr r, w) => (r, w)
    | (.inl c, w) =>
      if w.ready.isEmpty then await script fuel c (toNextTimer c.timers w)
      else await script fuel c (drain script (fuel + 1) w)

/-! ## What the caller does -/

/-- How many steps of everybody one action of the caller may take. -/
def patience : Nat := 0x1000000000

/-- The clock jumps; timers that it passes are noticed by the next one who
waits. -/
def advance (by_ : Duration) (script : Script) (w : Simulation) : Simulation :=
  wakeDue (drain script patience { w with now := w.now + by_.nanos })

def sleep (by_ : Duration) (script : Script) (w : Simulation) : Simulation :=
  (await script patience (.sleeping (dueAfter w.now by_)) w).2

/-- One pass of the watchdog by the caller. -/
def lookOnce (script : Script) (w : Simulation) : CallerResult × Simulation :=
  if w.inspector.isSilent w.now then
    let (p, w) := w.ask script
    await script patience (.probing p) w
  else (.triggered none, w)

/-- An inspection by the caller; its token is cancelled before, or by a timer. -/
def inspect (block : UInt64) (cancelled : Bool) (cancelAfter : Option Duration)
    (script : Script) (w : Simulation) : CallerResult × Simulation :=
  await script patience
    (.inspecting (.start block w.now) cancelled (cancelAfter.map (dueAfter w.now))) w

/-- Starts worker and watchdog, if the inspector and the bus allow it. -/
def begin (w : Simulation) : Except Failure Bool × Simulation :=
  let subscribe : Except BusError Unit :=
    if w.busClosed then .error .closed
    else if w.subscribed then .error (.alreadySubscribed Subject.scannerBlock)
    else .ok ()
  match w.inspector.start subscribe with
  | (.ok true, i) =>
    (.ok true, { w with
      inspector := i
      subscribed := true
      worker := .waiting
      watchdog := .fresh
      held := [.worker, .watchdog]
      ready := w.ready ++ [.worker, .watchdog] })
  | (r, i) => (r, { w with inspector := i })

/-- Cancels the token of worker and watchdog.  A watchdog that asks the chain
notices only afterwards. -/
def cancel (w : Simulation) : Simulation :=
  let w := { w with cancelled := true }
  let w := if w.isOver .worker then w else w.wake .worker
  match w.watchdog with
  | .sleeping _ => w.wake .watchdog
  | _ => w

/-- How long the inspector waits for its tasks when it is shut down. -/
def shutdownGrace : Duration := .ofSecs 30

def shutdown (script : Script) (w : Simulation) : Simulation :=
  let tasks := w.held
  (await script patience (.joining tasks (dueAfter w.now shutdownGrace)) { w with held := [] }).2

end Simulation

end NodeKeeper
