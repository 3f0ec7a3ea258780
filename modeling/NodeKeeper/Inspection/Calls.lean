/-
# What an inspector calls

An inspector calls on two others: on the routine that inspects a block, when a
step begins an attempt, and on the chain, when a look at the clock finds that
block progress is silent.  A question to the chain is out until whoever asked it
finds it settled.

    routineCall?    what the routine is given in a step
    question?       the question to the chain that a step asks
    settlement?     the question that a step finds settled, and the block to
                    inspect because of it, if any
    offer?          the block that a step offers to the slot

`along` collects any of these over a series of moves.  An inspection that is not
the worker's is looked at again and again with a token of its own
(`Trial.watch`).
-/
import NodeKeeper.Inspection.Life

namespace NodeKeeper

namespace InspectorLife

/-- The routine is called when the worker begins an attempt. -/
def routineCall? (life : InspectorLife) : InspectorMove → Option InspectionInputs
  | .work k now cancelled next _ =>
    match life.workers[k]? with
    | some (.inspecting t) =>
      match t.step life.inspector.settings now cancelled next with
      | .begins t => some (life.inspector.settings.inputsFor t.block)
      | _ => none
    | _ => none
  | _ => none

/-- The chain is asked when progress is found to be silent. -/
def question? (life : InspectorLife) : InspectorMove → Option ChainProbe
  | .look now answer =>
    if life.inspector.isSilent now then some (.start life.inspector.settings now answer) else none
  | _ => none

/-- A question is settled when whoever asked it finds that the chain has answered
or the time limit is reached. -/
def settlement? (life : InspectorLife) : InspectorMove → Option (ChainProbe × Option UInt64)
  | .settle k now =>
    match life.probes[k]? with
    | none => none
    | some p => (p.settle? life.inspector.settings now).map fun target => (p, target)
  | _ => none

/-- Whoever tells of progress or finds a question settled may offer a block. -/
def offer? (life : InspectorLife) : InspectorMove → Option UInt64
  | .trigger block => some block
  | .progress _ p => life.inspector.settings.targetBlock p.received
  | m => (life.settlement? m).bind (·.2)

/-- What the moves give one after the other. -/
def along {α : Type} (f : InspectorLife → InspectorMove → Option α) :
    List InspectorMove → InspectorLife → List α
  | [], _ => []
  | m :: rest, life => (f life m).toList ++ along f rest (life.step m).1

end InspectorLife

/-- A look at an inspection: when, whether its token is cancelled, and the
attempt that is begun if one is. -/
structure TrialLook where
  now : Instant
  cancelled : Bool
  next : Attempt

/-- What the routine is given while an inspection is looked at, and how it has
ended, if it has. -/
def Trial.watch (s : InspectionSettings) :
    List TrialLook → Trial →
      List InspectionInputs × Option (Option InspectionResults × Except InspectionError Unit)
  | [], _ => ([], none)
  | l :: rest, t =>
    match t.step s l.now l.cancelled l.next with
    | .waits => watch s rest t
    | .goes t => watch s rest t
    | .begins t =>
      let (calls, ending) := watch s rest t
      (s.inputsFor t.block :: calls, ending)
    | .ends results result => ([], some (results, result))

end NodeKeeper
