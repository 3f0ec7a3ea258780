/-
# The bus in virtual time

Runs a bus whose handlers play scripts.  Time stands still while anybody can go
on, and then moves to the earliest timer.  Beside the dispatchers there is a
caller, who does one thing after the other and goes first; the dispatchers
follow in the order in which they were woken.
-/
import NodeKeeper.Bus.Bus
import NodeKeeper.Failure
import NodeKeeper.Json.Write
import NodeKeeper.Time.Timer

namespace NodeKeeper

/-- How a played handler ends. -/
inductive PlayedEnd where
  | returns
  | fails (text : String)
  | crashes
  | hangs

/-- A handler that reads a payload, waits, passes the payload on if it is told
to, and ends. -/
structure PlayedHandler where
  /-- the payload as the handler understands it, unless it cannot be decoded -/
  read : Payload → Option Json.Value
  delay : Duration
  forward : Option String
  ending : PlayedEnd

/-- What is noted of a handler. -/
inductive BusEvent where
  | got (subject : String) (value : Json.Value)
  | done (subject : String)

structure BusSimulation where
  bus : Bus PlayedHandler
  now : Instant
  /-- the subjects whose dispatchers can go on, in the order they were woken -/
  ready : List String
  /-- the subjects whose handlers wait for a timer, in the order the timers
  were set -/
  sleeping : List (Tick × String)
  /-- the dispatchers that a shutdown waits for -/
  held : List String
  /-- what was noted, the last first -/
  events : List BusEvent

namespace BusSimulation

def start : BusSimulation := ⟨.opened, 0, [], [], [], []⟩

def note (w : BusSimulation) (e : BusEvent) : BusSimulation := { w with events := e :: w.events }

/-- Wakes the dispatcher of a subject if it is between two payloads. -/
def wake (w : BusSimulation) (subject : String) : BusSimulation :=
  if w.bus.isIdle subject && !w.ready.contains subject then
    { w with ready := w.ready ++ [subject] }
  else w

def subscribe (w : BusSimulation) (subject : String) (h : PlayedHandler) :
    Except BusError Unit × BusSimulation :=
  match w.bus.subscribe subject h with
  | (.ok (), bus) => (.ok (), { w with bus := bus, held := subject :: w.held }.wake subject)
  | (.error e, bus) => (.error e, { w with bus := bus })

def publish (w : BusSimulation) (subject : String) (payload : Payload) :
    Except BusError Unit × BusSimulation :=
  let (result, bus) := w.bus.publish subject payload
  (result, { w with bus := bus }.wake subject)

/-- Publishes a value in its encoded form, if it has one. -/
def publishEncoded (w : BusSimulation) (subject : String) :
    Option Payload → Except BusError Unit × BusSimulation
  | none => (.error (.encode subject), w)
  | some payload => w.publish subject payload

/-- Closes the bus; the dispatchers between two payloads are woken. -/
def close (w : BusSimulation) : BusSimulation :=
  w.bus.subjects.foldl wake { w with bus := w.bus.close }

/-! ## Handlers -/

/-- What came of a handler. -/
inductive Played where
  | ended (result : Except BusError Unit)
  | crashed
  | hangs

/-- What a handler does after its delay. -/
def play (h : PlayedHandler) (subject : String) (value : Json.Value) (w : BusSimulation) :
    Played × BusSimulation :=
  let failing (e : Failure) : Played := .ended (.error (.handler subject e.message))
  let (passedOn, w) := match h.forward with
    | some other => w.publish other (Json.utf8 value.compact)
    | none => (.ok (), w)
  match passedOn with
  | .error e => (failing (.bus e), w)
  | .ok () =>
    match h.ending with
    | .crashes => (.crashed, w)
    | .hangs => (.hangs, w)
    | .returns => (.ended (.ok ()), w.note (.done subject))
    | .fails text => (failing (.internal text), w.note (.done subject))

/-- What a handler at work on a payload does after its delay. -/
def resume (h : PlayedHandler) (subject : String) (payload : Payload) (w : BusSimulation) :
    BusSimulation :=
  match h.read payload with
  | none => { w with bus := w.bus.finish subject }
  | some value =>
    match w.play h subject value with
    | (.ended _, w) => { w with bus := w.bus.finish subject }
    | (.crashed, w) => { w with bus := w.bus.crash subject }
    | (.hangs, w) => w

/-- The dispatcher of a subject runs until it waits or ends. -/
def runDispatcher (subject : String) : Nat → BusSimulation → BusSimulation
  | 0, w => w
  | fuel + 1, w =>
    match w.bus.dispatch subject with
    | (none, bus) => { w with bus := bus }
    | (some (h, payload), bus) =>
      let w := { w with bus := bus }
      match h.read payload with
      | none => runDispatcher subject fuel { w with bus := w.bus.finish subject }
      | some value =>
        let w := w.note (.got subject value)
        let due := dueAfter w.now h.delay
        if isDue w.now due then runDispatcher subject fuel (w.resume h subject payload)
        else { w with sleeping := w.sleeping ++ [(due, subject)] }

/-- Lets the dispatcher of a subject go on. -/
def run (fuel : Nat) (subject : String) (w : BusSimulation) : BusSimulation :=
  let w := match w.bus.inHand subject with
    | some (h, payload) => w.resume h subject payload
    | none => w
  runDispatcher subject fuel w

/-- Runs the woken dispatchers until none is left. -/
def drain : Nat → BusSimulation → BusSimulation
  | 0, w => w
  | fuel + 1, w =>
    match w.ready with
    | [] => w
    | subject :: rest => drain fuel (run (fuel + 1) subject { w with ready := rest })

/-- Moves time to the earliest timer, those of the caller included, and wakes
the dispatchers whose timers are due. -/
def toNextTimer (callerTimer : Tick) (w : BusSimulation) : BusSimulation :=
  let now := waitUntil w.now ((w.sleeping.map (·.1)).foldl min callerTimer)
  let (due, later) := w.sleeping.partition fun (tick, _) => isDue now tick
  { w with now := now, sleeping := later, ready := w.ready ++ due.map (·.2) }

/-! ## The caller -/

/-- What the caller waits for. -/
inductive Caller where
  | sleeping (tick : Tick)
  /-- the end of dispatchers, up to a limit -/
  | joining (subjects : List String) (limit : Tick)
  /-- the delay of a handler that the caller runs itself -/
  | handling (h : PlayedHandler) (subject : String) (value : Json.Value) (tick : Tick)

def Caller.timer : Caller → Tick
  | .sleeping tick => tick
  | .joining _ limit => limit
  | .handling _ _ _ tick => tick

/-- The caller goes on, if it can. -/
def poll? (c : Caller) (w : BusSimulation) : Option (Except BusError Unit × BusSimulation) :=
  match c with
  | .sleeping tick => if isDue w.now tick then some (.ok (), w) else none
  | .joining subjects limit =>
    if subjects.all w.bus.hasEnded || isDue w.now limit then some (.ok (), w) else none
  | .handling h subject value tick =>
    if isDue w.now tick then
      match w.play h subject value with
      | (.ended result, w) => some (result, w)
      | (_, w) => some (.ok (), w)
    else none

/-- Runs everybody until the caller has what it waits for. -/
def await : Nat → Caller → BusSimulation → Except BusError Unit × BusSimulation
  | 0, _, w => (.ok (), w)
  | fuel + 1, c, w =>
    match poll? c w with
    | some r => r
    | none =>
      if w.ready.isEmpty then await fuel c (toNextTimer c.timer w)
      else await fuel c (drain (fuel + 1) w)

/-- How many steps of everybody one action of the caller may take. -/
def patience : Nat := 100000000

def sleep (d : Duration) (w : BusSimulation) : Except BusError Unit × BusSimulation :=
  await patience (.sleeping (dueAfter w.now d)) w

/-- Runs a handler without the bus. -/
def handle (h : PlayedHandler) (subject : String) (payload : Payload) (w : BusSimulation) :
    Except BusError Unit × BusSimulation :=
  match h.read payload with
  | none => (.error (.decode subject), w)
  | some value =>
    let w := w.note (.got subject value)
    await patience (.handling h subject value (dueAfter w.now h.delay)) w

/-- How long a shutdown waits for the dispatchers. -/
def shutdownGrace : Duration := .ofSecs 10

/-- Closes the bus and waits for the handlers at work. -/
def shutDown (w : BusSimulation) : Except BusError Unit × BusSimulation :=
  let w := w.close
  await patience (.joining w.held (dueAfter w.now shutdownGrace))
    { w with bus := w.bus.shutDown, held := [] }

end BusSimulation

end NodeKeeper
