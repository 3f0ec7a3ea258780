/-
# The traffic on a bus

A bus is used by many at the same time.  Anybody may publish or subscribe at any
time, each lane has a dispatcher of its own, and whoever holds the bus's token
may cancel it at any time.  A step of the traffic is what one of them does
between two points at which it waits; any order of steps is possible.

**A call**, to publish or to subscribe, first looks whether the token is
cancelled, and then waits for the routes, which say which lane a subject leads
to.  In between the token may be cancelled, and the bus may be shut down.  A call
to subscribe that has opened a lane waits once more, to have the dispatcher noted
for the shutdown; if it is given up there, the lane stays.

**A shutdown** cancels the token and later clears the routes.  The lanes stay:
their dispatchers end when they next look at the token.  A call to subscribe
that found the bus open before may find no route for its subject afterwards, and
open another lane for it.

    token      cancelled or not, never the other way
    routes     the lane of each subject
    lanes      all that were ever opened, in order; `Lane` says where each stands
    calls      all that were ever made, in order
-/
import NodeKeeper.Bus.Bus

namespace NodeKeeper

/-- Where a call to the bus stands. -/
inductive BusCall (Handler : Type) where
  /-- found the bus open, and waits for the routes -/
  | publishing (subject : String) (payload : Payload)
  | subscribing (subject : String) (handler : Handler)
  /-- has opened a lane, and waits for the list of dispatchers -/
  | noting
  /-- answered, or given up -/
  | done

structure Traffic (Handler : Type) where
  cancelled : Bool
  routes : Dictionary Nat
  lanes : List (String × Lane Handler)
  calls : List (BusCall Handler)

/-- What the dispatcher of a lane, or its handler, may do next. -/
inductive LaneMove where
  /-- the dispatcher looks for a payload -/
  | dispatch
  /-- the handler is done; what it has made of a payload it can read -/
  | finish (result : Except String Unit)
  /-- the handler crashes -/
  | crash

/-- What may happen next. -/
inductive BusMove (Handler : Type) where
  /-- somebody calls -/
  | publish (subject : String) (payload : Payload)
  | subscribe (subject : String) (handler : Handler)
  /-- call `i` gets what it waits for -/
  | enter (i : Nat)
  /-- call `i` is given up -/
  | giveUp (i : Nat)
  /-- the token is cancelled -/
  | cancel
  /-- a shutdown clears the routes -/
  | clear
  /-- lane `n` moves -/
  | lane (n : Nat) (m : LaneMove)

/-- What is noted. -/
inductive BusNote (Handler : Type) where
  /-- call `i` is answered -/
  | answered (i : Nat) (result : Except BusError Unit)
  /-- call `i` has given a subject a lane for its handler -/
  | subscribed (i : Nat) (subject : String) (handler : Handler)
  /-- call `i` has put its payload into the queue of the subject -/
  | queued (i : Nat) (subject : String) (payload : Payload)
  /-- a payload was handed to a handler -/
  | begun (subject : String) (handler : Handler) (payload : Payload)
  /-- the handler of a subject has returned -/
  | ended (subject : String) (result : Except BusError Unit)
  /-- the handler of a subject has crashed, and its dispatcher with it -/
  | crashed (subject : String)

/-- What a handler returns: an error for a payload that it cannot read, before it
does anything, or else what it has made of it. -/
def handled (readable : Bool) (subject : String) (result : Except String Unit) :
    Except BusError Unit :=
  if readable then result.mapError (BusError.handler subject) else .error (.decode subject)

variable {Handler : Type}

/-- One step of a lane between two payloads; `reads` says which payloads a handler
can read.  Whatever a handler returns, its dispatcher goes on; only the token
ends it, or a crash. -/
def Lane.step (reads : Handler → Payload → Bool) (cancelled : Bool) (subject : String)
    (lane : Lane Handler) : LaneMove → Lane Handler × List (BusNote Handler)
  | .dispatch =>
    match lane with
    | ⟨handler, queue, .idle⟩ =>
      if cancelled then (⟨handler, queue, .ended⟩, [])
      else
        match queue with
        | [] => (lane, [])
        | payload :: rest => (⟨handler, rest, .handling payload⟩, [.begun subject handler payload])
    | _ => (lane, [])
  | .finish result =>
    match lane with
    | ⟨handler, queue, .handling payload⟩ =>
      (⟨handler, queue, .idle⟩, [.ended subject (handled (reads handler payload) subject result)])
    | _ => (lane, [])
  | .crash =>
    match lane with
    | ⟨handler, queue, .handling _⟩ => (⟨handler, queue, .ended⟩, [.crashed subject])
    | _ => (lane, [])

namespace Traffic

/-- No traffic yet. -/
def opened : Traffic Handler := ⟨false, .empty, [], []⟩

def setLane (t : Traffic Handler) (n : Nat) (subject : String) (lane : Lane Handler) :
    Traffic Handler :=
  { t with lanes := t.lanes.set n (subject, lane) }

def setCall (t : Traffic Handler) (i : Nat) (c : BusCall Handler) : Traffic Handler :=
  { t with calls := t.calls.set i c }

/-- A subject gets a lane for its handler. -/
def openLane (t : Traffic Handler) (subject : String) (handler : Handler) : Traffic Handler :=
  { t with
    routes := t.routes.put subject t.lanes.length
    lanes := t.lanes ++ [(subject, ⟨handler, [], .idle⟩)] }

/-- Somebody calls; a cancelled bus answers at once. -/
def call (t : Traffic Handler) (c : BusCall Handler) : Traffic Handler × List (BusNote Handler) :=
  if t.cancelled then
    ({ t with calls := t.calls ++ [.done] }, [.answered t.calls.length (.error .closed)])
  else ({ t with calls := t.calls ++ [c] }, [])

/-- The lane a subject leads to. -/
def route? (t : Traffic Handler) (subject : String) : Option (Nat × Lane Handler) :=
  match t.routes.get? subject with
  | none => none
  | some n => (t.lanes[n]?).map fun e => (n, e.2)

/-- A call gets what it waits for. -/
def enter (t : Traffic Handler) (i : Nat) : Traffic Handler × List (BusNote Handler) :=
  match t.calls[i]? with
  | some (.publishing subject payload) =>
    match t.route? subject with
    | none => (t.setCall i .done, [.answered i (.ok ())])
    | some (n, lane) =>
      if lane.stage = .ended then (t.setCall i .done, [.answered i (.error .closed)])
      else
        ((t.setCall i .done).setLane n subject { lane with queue := lane.queue ++ [payload] },
         [.queued i subject payload, .answered i (.ok ())])
  | some (.subscribing subject handler) =>
    match t.routes.get? subject with
    | some _ => (t.setCall i .done, [.answered i (.error (.alreadySubscribed subject))])
    | none =>
      ((t.setCall i .noting).openLane subject handler, [.subscribed i subject handler])
  | some .noting => (t.setCall i .done, [.answered i (.ok ())])
  | _ => (t, [])

def giveUp (t : Traffic Handler) (i : Nat) : Traffic Handler × List (BusNote Handler) :=
  (t.setCall i .done, [])

/-- A lane moves; nobody else takes part in it. -/
def moveLane (reads : Handler → Payload → Bool) (t : Traffic Handler) (n : Nat) (m : LaneMove) :
    Traffic Handler × List (BusNote Handler) :=
  match t.lanes[n]? with
  | none => (t, [])
  | some (subject, lane) =>
    let (lane, notes) := lane.step reads t.cancelled subject m
    (t.setLane n subject lane, notes)

/-- One step. -/
def step (reads : Handler → Payload → Bool) (t : Traffic Handler) :
    BusMove Handler → Traffic Handler × List (BusNote Handler)
  | .publish subject payload => t.call (.publishing subject payload)
  | .subscribe subject handler => t.call (.subscribing subject handler)
  | .enter i => t.enter i
  | .giveUp i => t.giveUp i
  | .cancel => ({ t with cancelled := true }, [])
  | .clear => (if t.cancelled then { t with routes := .empty } else t, [])
  | .lane n m => t.moveLane reads n m

/-- Lets one thing happen after the other. -/
def play (reads : Handler → Payload → Bool) :
    List (BusMove Handler) → Traffic Handler → Traffic Handler × List (BusNote Handler)
  | [], t => (t, [])
  | m :: rest, t =>
    let (t, notes) := t.step reads m
    let (last, later) := play reads rest t
    (last, notes ++ later)

end Traffic

end NodeKeeper
