/-
# Requests that are outstanding at the same time

Many requests may be made to one supervisor before the first is finished.  A
request works only while it holds the table; the others wait in the order in
which they asked.  A step of a session is one step of one request: asking for
the table, one request to the surroundings, or finishing and handing the table
on.  Any order of steps is a possible run.
-/
import NodeKeeper.Fleet.Supervisor

namespace NodeKeeper

/-- A request to a supervisor. -/
inductive SupervisorRequest where
  | run (batch : List Agent)
  | stop (batch : List Agent)
  | containers
  | shutdown
  deriving DecidableEq, Repr

/-- What a request yields. -/
inductive SupervisorAnswer where
  | done (result : Except FleetError Unit)
  | records (rs : List ContainerRecord)

/-- Carries out a request on the table. -/
def Supervisor.serve (s : Supervisor) :
    SupervisorRequest → FleetTable → FleetDialogue (SupervisorAnswer × FleetTable)
  | .run batch, table => do
    let table ← s.run batch table
    pure (.done (.ok ()), table)
  | .stop batch, table => do
    let (result, table) ← Supervisor.stop batch table
    pure (.done result, table)
  | .containers, table => pure (.records table.snapshot, table)
  | .shutdown, table => do
    let table ← Supervisor.shutdown table
    pure (.done (.ok ()), table)

/-- Where a request stands. -/
inductive Turn where
  /-- has not asked for the table -/
  | fresh (request : SupervisorRequest)
  /-- waits for the table -/
  | queued (request : SupervisorRequest)
  /-- holds the table -/
  | acting (rest : FleetDialogue (SupervisorAnswer × FleetTable))
  | finished (answer : SupervisorAnswer)

structure Session where
  /-- the table as the last holder left it -/
  table : FleetTable
  /-- the request that holds the table -/
  holder : Option Nat
  /-- the requests that wait, the longest waiting first -/
  queue : List Nat
  /-- the requests that have been given the table, in that order -/
  granted : List Nat
  turns : List Turn

/-- A request to the surroundings, with the number of the request to the
supervisor on whose behalf it is made. -/
structure SessionRequest where
  asker : Nat
  request : FleetRequest

abbrev SessionRequest.Answer (r : SessionRequest) : Type := r.request.Answer

abbrev SessionDialogue (α : Type) : Type := Dialogue SessionRequest SessionRequest.Answer α

/-- What may happen next in a session. -/
inductive SessionMove where
  /-- a request is made; it has not asked for the table yet -/
  | arrive (request : SupervisorRequest)
  /-- request `i` makes a step -/
  | act (i : Nat)

namespace Session

/-- A session of fresh requests. -/
def start (table : FleetTable) (requests : List SupervisorRequest) : Session :=
  ⟨table, none, [], [], requests.map .fresh⟩

def setTurn (w : Session) (i : Nat) (t : Turn) : Session := { w with turns := w.turns.set i t }

def arrive (w : Session) (request : SupervisorRequest) : Session :=
  { w with turns := w.turns ++ [.fresh request] }

/-- Gives the table to request `i`. -/
def grant (s : Supervisor) (w : Session) (i : Nat) (request : SupervisorRequest) : Session :=
  { w.setTurn i (.acting (s.serve request w.table)) with
    holder := some i, granted := w.granted ++ [i] }

/-- Request `i` asks for the table, and waits if it is not free. -/
def ask (s : Supervisor) (w : Session) (i : Nat) (request : SupervisorRequest) : Session :=
  if w.holder.isNone ∧ w.queue.isEmpty then grant s w i request
  else { w.setTurn i (.queued request) with queue := w.queue ++ [i] }

/-- Takes back the table and gives it to the request that has waited longest. -/
def release (s : Supervisor) (w : Session) (table : FleetTable) : Session :=
  let free := { w with table := table, holder := none }
  match w.queue with
  | [] => free
  | i :: queue =>
    match w.turns[i]? with
    | some (.queued request) => grant s { free with queue := queue } i request
    | _ => { free with queue := queue }

/-- One step of request `i`. -/
def advance (s : Supervisor) (i : Nat) (w : Session) : SessionDialogue Session :=
  match w.turns[i]? with
  | some (.fresh request) => pure (ask s w i request)
  | some (.acting (.ask request next)) => do
    let answer ← Dialogue.request (SessionRequest.mk i request)
    pure (w.setTurn i (.acting (next answer)))
  | some (.acting (.done (answer, table))) =>
    pure (release s (w.setTurn i (.finished answer)) table)
  | _ => pure w

def move (s : Supervisor) (w : Session) : SessionMove → SessionDialogue Session
  | .arrive request => pure (w.arrive request)
  | .act i => w.advance s i

/-- Lets one thing happen after the other. -/
def play (s : Supervisor) : List SessionMove → Session → SessionDialogue Session
  | [], w => pure w
  | m :: rest, w => do play s rest (← w.move s m)

variable {σ : Type}

/-- One step of request `i` in surroundings that answer by `respond`. -/
def step (s : Supervisor) (respond : (r : FleetRequest) → σ → r.Answer × σ) (i : Nat)
    (w : Session) (world : σ) : Session × σ :=
  (advance s i w).run (fun (r : SessionRequest) => respond r.request) world

/-- Does request `i` wait for the engine or for the table, or has it finished? -/
def pauses (w : Session) (i : Nat) : Bool :=
  match w.turns[i]? with
  | some (.acting (.ask (.runtime _) _)) => true
  | some (.acting _) => false
  | some (.fresh _) => false
  | _ => true

/-- Steps of request `i` until it waits, with at least one step. -/
def poll (s : Supervisor) (respond : (r : FleetRequest) → σ → r.Answer × σ) (i : Nat) :
    Nat → Session → σ → Session × σ
  | 0, w, world => (w, world)
  | fuel + 1, w, world =>
    let (w, world) := step s respond i w world
    if w.pauses i then (w, world) else poll s respond i fuel w world

def isFinished (w : Session) : Bool :=
  w.turns.all fun
    | .finished _ => true
    | _ => false

/-- Has request `i` finished? -/
def hasFinished (w : Session) (i : Nat) : Bool :=
  match w.turns[i]? with
  | some (.finished _) => true
  | _ => false

/-- Has every request asked for the table? -/
def allAsked (w : Session) : Bool :=
  w.turns.all fun
    | .fresh _ => false
    | _ => true

/-- Polls every request in turn until all have finished. -/
def pollAll (s : Supervisor) (respond : (r : FleetRequest) → σ → r.Answer × σ) :
    Nat → Session → σ → Session × σ
  | 0, w, world => (w, world)
  | fuel + 1, w, world =>
    if w.isFinished then (w, world)
    else
      let (w, world) := (List.range w.turns.length).foldl
        (fun (w, world) i => poll s respond i (fuel + 1) w world) (w, world)
      pollAll s respond fuel w world

/-- The answers of the finished requests. -/
def answers (w : Session) : List SupervisorAnswer :=
  w.turns.filterMap fun
    | .finished a => some a
    | _ => none

end Session

end NodeKeeper
