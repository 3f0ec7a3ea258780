/-
# The whole node

The life of a node leaves out what its inspector does on its own.  Here the
worker and the watchdog of the inspector have their part in it, too.  They are
spawned when the main task starts the inspector, unless it is disabled, and run
beside all other tasks from then on, to the end of the node and beyond.

    node     what the other tasks do: a step of the node's life
    task     what worker or watchdog do: a step of the life of the inspector

The token they were started with is that of the node, which is cancelled when
its bus is closed.  The handler of block progress and the two tasks share one
inspector, so a step of the one is seen by the other.
-/
import NodeKeeper.Inspection.Calls
import NodeKeeper.Node.Life

namespace NodeKeeper

/-- What the tasks of an inspector may do next. -/
inductive InspectorTask where
  /-- the worker goes on; the attempt that is begun if one is -/
  | work (now : Instant) (next : Attempt) (time : Timestamp)
  /-- the worker crashes -/
  | crash
  /-- the watchdog looks at the clock; what the chain does if it is asked -/
  | look (now : Instant) (answer : ChainAnswer)
  /-- whoever asked question `k` looks whether it is settled -/
  | settle (k : Nat) (now : Instant)

/-- What is done, in the life of the inspector. -/
def InspectorTask.move (cancelled : Bool) : InspectorTask → InspectorMove
  | .work now next time => .work 0 now cancelled next time
  | .crash => .crash 0
  | .look now answer => .look now answer
  | .settle k now => .settle k now

/-- Does the main task spawn the worker of the inspector in its next step? -/
def LiveNode.spawns (n : LiveNode) : Bool :=
  match n.main with
  | .startingInspector =>
    match Node.startInspector n.config.inspectionSettings n.bus with
    | .ok (inspector, _) => inspector.settings.enabled
    | .error _ => false
  | _ => false

/-- The inspector of the node with its tasks. -/
def LiveNode.inspection (n : LiveNode) (workers : List Worker) (probes : List ChainProbe) :
    InspectorLife :=
  ⟨n.inspector, [], workers, probes⟩

/-- The parts that the reporters of the node are made of. -/
def LiveNode.parts (n : LiveNode) : Node := ⟨n.supervisor, n.session.table, n.inspector, n.bus⟩

def LiveNode.withInspector (n : LiveNode) (i : Inspector) : LiveNode := { n with inspector := i }

/-- A node with the tasks of its inspector. -/
structure WholeNode where
  life : NodeLife
  /-- the worker, once it is spawned -/
  workers : List Worker
  /-- the questions to the chain that are out -/
  probes : List ChainProbe

/-- What may happen next in a node. -/
inductive WholeMove where
  | node (m : NodeMove)
  | task (t : InspectorTask)

namespace WholeNode

/-- A node that has just begun. -/
def start (c : Config) (told : Bool) : WholeNode := ⟨.start c told, [], []⟩

/-- The workers that a move of the other tasks spawns. -/
def spawned (w : WholeNode) : NodeMove → List Worker
  | .main =>
    match w.life with
    | .up n => if n.spawns then [.waiting] else []
    | _ => []
  | _ => []

/-- The inspector with its tasks, once they are spawned, and the move that one
of them makes. -/
def tending? (w : WholeNode) (t : InspectorTask) : Option (InspectorLife × InspectorMove) :=
  match w.life with
  | .up n =>
    if w.workers.isEmpty then none
    else some (n.inspection w.workers w.probes, t.move n.bus.closed)
  | _ => none

/-- The node with its inspector and the tasks as they are now. -/
def withInspection (w : WholeNode) (i : InspectorLife) : WholeNode :=
  match w.life with
  | .up n => ⟨.up (n.withInspector i.inspector), i.workers, i.probes⟩
  | _ => w

/-- One step of worker or watchdog. -/
def tend (w : WholeNode) (t : InspectorTask) : WholeNode :=
  match w.tending? t with
  | none => w
  | some (i, m) => w.withInspection (i.step m).1

def step (w : WholeNode) : WholeMove → NodeDialogue WholeNode
  | .node m => do
    let life ← w.life.step m
    pure ⟨life, w.workers ++ w.spawned m, w.probes⟩
  | .task t => pure (w.tend t)

/-! ## What can be seen of a move -/

/-- What is noted of the inspector's tasks. -/
def events (w : WholeNode) : WholeMove → List InspectorEvent
  | .node _ => []
  | .task t =>
    match w.tending? t with
    | none => []
    | some (i, m) => (i.step m).2

/-- What the routine is given. -/
def routineCall? (w : WholeNode) : WholeMove → Option InspectionInputs
  | .node _ => none
  | .task t => (w.tending? t).bind fun (i, m) => i.routineCall? m

/-- The question the chain is asked. -/
def question? (w : WholeNode) : WholeMove → Option ChainProbe
  | .node _ => none
  | .task t => (w.tending? t).bind fun (i, m) => i.question? m

/-- What somebody publishes. -/
def posted? : WholeMove → Option (String × Payload)
  | .node (.post subject payload) => some (subject, payload)
  | _ => none

/-- The message that is handed to its handler, and when. -/
def heard? (w : WholeNode) : WholeMove → Option NodeMessage
  | .node (.dispatch subject now) =>
    match w.life with
    | .up n => (n.bus.dispatch subject).1.map fun (_, payload) => ⟨subject, payload, now⟩
    | _ => none
  | _ => none

end WholeNode

end NodeKeeper
