/-
# Rehearsals of a fleet

A rehearsed engine answers every request by itself: images are there unless
they are said to be missing, and ids are made from names.  Faults change the
answers to chosen requests.  A rehearsal keeps a record of the requests and of
what was published.
-/
import NodeKeeper.Bus.Error
import NodeKeeper.Fleet.Messages

namespace NodeKeeper

/-- The kind of a request to the engine. -/
inductive CallKind where
  | hasImage
  | pullImage
  | createNetwork
  | start
  | attach
  | stop
  deriving DecidableEq, Repr

namespace RuntimeCall

def kind : RuntimeCall → CallKind
  | .hasImage _ => .hasImage
  | .pullImage _ => .pullImage
  | .createNetwork _ => .createNetwork
  | .start _ => .start
  | .attach _ _ => .attach
  | .stop _ => .stop

/-- What a request is about: an image, a network, or a container. -/
def target : RuntimeCall → String
  | .hasImage image => image
  | .pullImage image => image
  | .createNetwork name => name
  | .start spec => spec.name
  | .attach container _ => container
  | .stop container => container

end RuntimeCall

/-- A changed answer to some requests. -/
structure Fault where
  kind : CallKind
  /-- the target of the requests; any target if there is none -/
  target : Option String
  /-- how many more requests it changes; all if there is no number -/
  left : Option Nat
  error : Option RuntimeError
  id : Option String
  name : Option String
  alreadyAttached : Bool

def Fault.matches (f : Fault) (c : RuntimeCall) : Bool :=
  f.kind == c.kind && (f.target.isNone || f.target == some c.target) && f.left != some 0

structure RehearsedEngine where
  /-- images that are not there until they are pulled -/
  missing : List String
  faults : List Fault

namespace RehearsedEngine

/-- The first fault that matches a request, and the faults left after it. -/
def useFault (c : RuntimeCall) : List Fault → Option Fault × List Fault
  | [] => (none, [])
  | f :: fs =>
    if f.matches c then (some f, { f with left := f.left.map (· - 1) } :: fs)
    else
      let (found, fs) := useFault c fs
      (found, f :: fs)

/-- The answer of an engine without faults, changed by a fault. -/
def plainAnswer (e : RehearsedEngine) (f : Option Fault) : (c : RuntimeCall) → c.Success
  | .hasImage image => (!e.missing.contains image : Bool)
  | .pullImage _ => ()
  | .createNetwork name => ((f.bind (·.id)).getD ("net-" ++ name) : String)
  | .start spec =>
    (⟨(f.bind (·.id)).getD ("cid-" ++ spec.name), (f.bind (·.name)).getD spec.name, spec.image⟩ :
      Handle)
  | .attach _ _ =>
    (if (f.map (·.alreadyAttached)).getD false then .alreadyAttached else .attached : Attachment)
  | .stop _ => ()

/-- Answers a request. -/
def respond (c : RuntimeCall) (e : RehearsedEngine) : c.Answer × RehearsedEngine :=
  let (f, faults) := useFault c e.faults
  let e := { e with faults := faults }
  match f.bind (·.error) with
  | some error => (.error error, e)
  | none =>
    (.ok (e.plainAnswer f c), match c with
      | .pullImage image => { e with missing := e.missing.filter (· != image) }
      | _ => e)

end RehearsedEngine

/-- A rehearsed engine and bus with records of what happened, the last first. -/
structure Rehearsal where
  engine : RehearsedEngine
  calls : List RuntimeCall
  published : List (String × List Agent)
  /-- the bus takes no publications and no handlers -/
  busClosed : Bool
  /-- the subjects with a handler -/
  subscribed : List String
  /-- the count that health checks show -/
  count : Nat
  table : FleetTable

namespace Rehearsal

def start (engine : RehearsedEngine) : Rehearsal := ⟨engine, [], [], false, [], 0, .empty⟩

def respond (clockTime : Timestamp) (r : FleetRequest) (w : Rehearsal) : r.Answer × Rehearsal :=
  match r with
  | .now => (clockTime, w)
  | .setCount n => ((), { w with count := n })
  | .publish subject batch =>
    ((), if w.busClosed then w else { w with published := (subject, batch) :: w.published })
  | .runtime call =>
    let (answer, engine) := w.engine.respond call
    (answer, { w with engine := engine, calls := call :: w.calls })

/-- How many rounds of polling a rehearsal makes. -/
def patience : Nat := 1000000

/-- Makes requests to the supervisor, all at the same time. -/
def ask (s : Supervisor) (clockTime : Timestamp) (requests : List SupervisorRequest)
    (w : Rehearsal) : List SupervisorAnswer × Rehearsal :=
  let (session, w) :=
    Session.pollAll s (respond clockTime) patience (.start w.table requests) w
  (session.answers, { w with table := session.table })

/-- Subscribes the handlers of a supervisor, up to the first failure. -/
def register (w : Rehearsal) : List String → Except BusError Unit × Rehearsal
  | [] => (.ok (), w)
  | subject :: rest =>
    if w.busClosed then (.error .closed, w)
    else if w.subscribed.contains subject then (.error (.alreadySubscribed subject), w)
    else register { w with subscribed := subject :: w.subscribed } rest

/-- Forgets the records. -/
def forget (w : Rehearsal) : Rehearsal := { w with calls := [], published := [] }

end Rehearsal

end NodeKeeper
