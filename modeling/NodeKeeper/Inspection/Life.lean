/-
# The life of an inspector

An inspector is used by many at the same time.  Anybody may call for its start,
tell it of block progress, offer it a block, have it look at its clock, or take
out the pending block, at any time and as often as they like.  Once it is
started its worker inspects, and the token it was started with may be cancelled
at any time.  A step of the life is what one of them does between two points at
which it waits; any order of steps is a possible life.

**A start** waits up to three times, and may be given up whenever it waits:

    fresh          for the slot, to take its receiving end
    subscribing    for the bus, to subscribe to block progress; has the receiving end
    noting         for the list of tasks; the worker has the receiving end
    returned       the start is over

**A look at the clock** is made by the watchdog at regular times, and by anybody
else.  While progress is silent it leads to a question to the chain, which is
out until it is settled.

**What happens** is noted: what starts return, what becomes of offers, and what
becomes of the blocks that are taken out of the slot.
-/
import NodeKeeper.Inspection.Inspector

namespace NodeKeeper

/-- How far a start has come. -/
inductive StartStage where
  | fresh
  | subscribing
  | noting
  | returned (result : Except Failure Bool)
  /-- given up by its caller -/
  | abandoned

structure InspectorLife where
  inspector : Inspector
  /-- the starts that were called for, in order -/
  starts : List StartStage
  /-- the workers spawned so far -/
  workers : List Worker
  /-- the questions to the chain that are out -/
  probes : List ChainProbe

/-- What may happen next in the life of an inspector. -/
inductive InspectorMove where
  /-- somebody calls for a start -/
  | call
  /-- start `i` goes on; what the bus says if it is asked -/
  | start (i : Nat) (subscription : Except BusError Unit)
  /-- start `i` is given up -/
  | abandon (i : Nat)
  /-- block progress is told -/
  | progress (now : Instant) (p : Progress)
  /-- a block is offered -/
  | trigger (block : UInt64)
  /-- a look at the clock; what the chain does if it is asked -/
  | look (now : Instant) (answer : ChainAnswer)
  /-- whoever asked question `k` looks whether it is settled -/
  | settle (k : Nat) (now : Instant)
  /-- the pending block is to be taken out -/
  | take
  /-- worker `k` goes on; whether its token is cancelled, and the attempt that
  is begun if one is -/
  | work (k : Nat) (now : Instant) (cancelled : Bool) (next : Attempt) (time : Timestamp)
  /-- worker `k` crashes -/
  | crash (k : Nat)
  /-- an inspection that is not the worker's is over -/
  | conclude (time : Timestamp) (result : Except InspectionError Unit)

/-- What is noted of the life of an inspector. -/
inductive InspectorEvent where
  /-- a start has returned -/
  | returned (result : Except Failure Bool)
  | offered (block : UInt64) (outcome : TriggerOutcome)
  /-- a block was taken out by anybody but the worker -/
  | taken (block : UInt64)
  /-- the worker has taken out a block and begins to inspect it -/
  | received (block : UInt64)
  /-- the worker has inspected a block -/
  | inspected (block : UInt64) (results : Option InspectionResults)
      (result : Except InspectionError Unit)
  /-- the worker has crashed over a block -/
  | broken (block : UInt64)
  /-- the receiving end of the slot is gone -/
  | lost

namespace InspectorLife

/-- An inspector nobody has used yet. -/
def idle (s : InspectionSettings) : InspectorLife := ⟨.idle s, [], [], []⟩

def withSlot (life : InspectorLife) (slot : PendingSlot) : InspectorLife :=
  { life with inspector := { life.inspector with slot := slot } }

def setStart (life : InspectorLife) (i : Nat) (stage : StartStage) : InspectorLife :=
  { life with starts := life.starts.set i stage }

def setWorker (life : InspectorLife) (k : Nat) (w : Worker) : InspectorLife :=
  { life with workers := life.workers.set k w }

/-- A worker is spawned. -/
def spawn (life : InspectorLife) : InspectorLife :=
  { life with workers := life.workers ++ [.waiting] }

/-- The inspector has been told something that may have called for an offer. -/
def answered (life : InspectorLife) (block : Option UInt64)
    (r : Option TriggerOutcome × Inspector) : InspectorLife × List InspectorEvent :=
  ({ life with inspector := r.2 },
   match block, r.1 with
   | some block, some outcome => [.offered block outcome]
   | _, _ => [])

/-- One step of a start. -/
def proceed (life : InspectorLife) (i : Nat) (subscription : Except BusError Unit) :
    InspectorLife × List InspectorEvent :=
  match life.starts[i]? with
  | some .fresh =>
    if ¬ life.inspector.settings.enabled then
      (life.setStart i (.returned (.ok false)), [.returned (.ok false)])
    else
      match life.inspector.slot.takeReceiver with
      | (true, slot) => ((life.withSlot slot).setStart i .subscribing, [])
      | (false, _) =>
        let refusal : Except Failure Bool := .error (.inspection .alreadyStarted)
        (life.setStart i (.returned refusal), [.returned refusal])
  | some .subscribing =>
    match subscription with
    | .ok () => (life.spawn.setStart i .noting, [])
    | .error e =>
      ((life.withSlot life.inspector.slot.dropReceiver).setStart i (.returned (.error (.bus e))),
       [.lost, .returned (.error (.bus e))])
  | some .noting => (life.setStart i (.returned (.ok true)), [.returned (.ok true)])
  | _ => (life, [])

/-- A start is given up; it drops what it holds. -/
def abandon (life : InspectorLife) (i : Nat) : InspectorLife × List InspectorEvent :=
  match life.starts[i]? with
  | some .subscribing =>
    ((life.withSlot life.inspector.slot.dropReceiver).setStart i .abandoned, [.lost])
  | some .fresh | some .noting => (life.setStart i .abandoned, [])
  | _ => (life, [])

/-- Somebody looks whether their question to the chain is settled. -/
def settle (life : InspectorLife) (k : Nat) (now : Instant) :
    InspectorLife × List InspectorEvent :=
  match life.probes[k]? with
  | none => (life, [])
  | some p =>
    match p.settle? life.inspector.settings now with
    | none => (life, [])
    | some target =>
      { life with probes := life.probes.eraseIdx k }.answered target
        (life.inspector.afterProbe target)

/-- One step of a worker. -/
def work (life : InspectorLife) (k : Nat) (now : Instant) (cancelled : Bool) (next : Attempt)
    (time : Timestamp) : InspectorLife × List InspectorEvent :=
  match life.workers[k]? with
  | some .waiting =>
    if cancelled then
      ((life.withSlot life.inspector.slot.dropReceiver).setWorker k .gone, [.lost])
    else
      match life.inspector.slot.receive with
      | (none, _) => (life, [])
      | (some block, slot) =>
        ((life.withSlot slot).setWorker k (.inspecting (.start block now)), [.received block])
  | some (.inspecting t) =>
    match t.step life.inspector.settings now cancelled next with
    | .waits => (life, [])
    | .goes t | .begins t => (life.setWorker k (.inspecting t), [])
    | .ends results result =>
      ({ life with inspector := life.inspector.conclude time result }.setWorker k .waiting,
       [.inspected t.block results result])
  | _ => (life, [])

/-- A worker crashes, and the receiving end goes with it. -/
def crash (life : InspectorLife) (k : Nat) : InspectorLife × List InspectorEvent :=
  let fallen := (life.withSlot life.inspector.slot.dropReceiver).setWorker k .gone
  match life.workers[k]? with
  | some .waiting => (fallen, [.lost])
  | some (.inspecting t) => (fallen, [.broken t.block, .lost])
  | _ => (life, [])

def step (life : InspectorLife) : InspectorMove → InspectorLife × List InspectorEvent
  | .call => ({ life with starts := life.starts ++ [.fresh] }, [])
  | .start i subscription => life.proceed i subscription
  | .abandon i => life.abandon i
  | .progress now p =>
    life.answered (life.inspector.settings.targetBlock p.received) (life.inspector.heed now p)
  | .trigger block =>
    let (outcome, i) := life.inspector.trigger block
    life.answered (some block) (some outcome, i)
  | .look now answer =>
    if life.inspector.isSilent now then
      ({ life with probes := life.probes ++ [.start life.inspector.settings now answer] }, [])
    else (life, [])
  | .settle k now => life.settle k now
  | .take =>
    let (block, i) := life.inspector.takePending
    ({ life with inspector := i }, (block.map InspectorEvent.taken).toList)
  | .work k now cancelled next time => life.work k now cancelled next time
  | .crash k => life.crash k
  | .conclude time result =>
    ({ life with inspector := life.inspector.conclude time result }, [])

/-- Lets one thing happen after the other. -/
def play : List InspectorMove → InspectorLife → InspectorLife × List InspectorEvent
  | [], life => (life, [])
  | m :: rest, life =>
    let (life, events) := life.step m
    let (last, later) := play rest life
    (last, events ++ later)

end InspectorLife

end NodeKeeper
