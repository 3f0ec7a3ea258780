/-
# One inspection with its repetitions

An inspection of a block makes attempts until one succeeds or the retry policy
gives up.  Each attempt has a time limit, and a pause lies between two
attempts.  A cancellation ends the inspection at once, whether an attempt or a
pause is on.

A trial is the state of such an inspection between two steps.  What an attempt
will do is decided by its surroundings and told to the step that begins it.

Attempts are counted without end.  That a counter of 32 bits runs over with
attempt 2 ^ 32 is left out; what is proved of the number of attempts keeps it below
that.
-/
import NodeKeeper.Inspection.Outcome
import NodeKeeper.Inspection.Settings
import NodeKeeper.Time.Timer

namespace NodeKeeper

/-- What an attempt does: it ends after a time with an outcome, or never. -/
inductive Attempt where
  | ends (after : Duration) (outcome : InspectionOutcome)
  | hangs

inductive TrialStage where
  /-- an attempt is to begin -/
  | ready
  /-- an attempt is on: when it ends and how, and its time limit -/
  | attempting (ending : Option (Tick × InspectionOutcome)) (limit : Tick)
  /-- the next attempt comes later -/
  | pausing (resume : Tick)

structure Trial where
  block : UInt64
  started : Instant
  /-- the attempts begun so far -/
  attempts : Nat
  stage : TrialStage

/-- What a step of a trial leads to. -/
inductive TrialStep where
  /-- nothing can happen before a timer goes off or the trial is cancelled -/
  | waits
  | goes (t : Trial)
  /-- an attempt has begun -/
  | begins (t : Trial)
  /-- the inspection is over: results to publish, and how it ended -/
  | ends (results : Option InspectionResults) (result : Except InspectionError Unit)

namespace Trial

def start (block : UInt64) (now : Instant) : Trial := ⟨block, now, 0, .ready⟩

/-- The timers that a trial waits for. -/
def timers (t : Trial) : List Tick :=
  match t.stage with
  | .ready => []
  | .attempting ending limit => (ending.map (·.1)).toList ++ [limit]
  | .pausing resume => [resume]

/-- What follows an attempt that failed with an error. -/
def afterFailure (s : InspectionSettings) (now : Instant) (t : Trial)
    (results : Option InspectionResults) (e : InspectionError) : TrialStep :=
  let elapsed := passed t.started now
  match s.retry.nextDelay t.attempts elapsed with
  | none => .ends results (.error (.exhausted t.attempts elapsed e.message))
  | some delay => .goes { t with stage := .pausing (dueAfter now delay) }

/-- What follows an attempt that came to an end in time. -/
def afterOutcome (s : InspectionSettings) (now : Instant) (t : Trial)
    (o : InspectionOutcome) : TrialStep :=
  match o.error with
  | none => .ends o.results (.ok ())
  | some e => t.afterFailure s now o.results e

/-- One step at a point in time.  A cancellation comes before everything else,
and the end of an attempt before its time limit.  `next` is the attempt that is
begun, if the step begins one. -/
def step (s : InspectionSettings) (now : Instant) (cancelled : Bool) (next : Attempt)
    (t : Trial) : TrialStep :=
  if cancelled then .ends none (.error .cancelled)
  else
    match t.stage with
    | .ready =>
      let ending := match next with
        | .ends after outcome => some (dueAfter now after, outcome)
        | .hangs => none
      .begins { t with
        attempts := t.attempts + 1
        stage := .attempting ending (dueAfter now s.attemptTimeout) }
    | .attempting ending limit =>
      match ending with
      | some (at_, outcome) =>
        if isDue now at_ then t.afterOutcome s now outcome
        else if isDue now limit then t.afterFailure s now none (.timeout s.attemptTimeout)
        else .waits
      | none =>
        if isDue now limit then t.afterFailure s now none (.timeout s.attemptTimeout)
        else .waits
    | .pausing resume =>
      if isDue now resume then .goes { t with stage := .ready } else .waits

end Trial

end NodeKeeper
