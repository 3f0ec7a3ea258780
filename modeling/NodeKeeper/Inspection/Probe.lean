/-
# The watchdog's question to the chain

While block progress is silent the watchdog asks the chain for its latest
block, within a time limit.  A block on the cadence is inspected; when the
chain cannot be asked, block 0 is.
-/
import NodeKeeper.Inspection.Outcome
import NodeKeeper.Inspection.Settings
import NodeKeeper.Time.Timer

namespace NodeKeeper

/-- What the chain does when asked for its latest block: it answers after a
time, or never. -/
inductive ChainAnswer where
  | answers (after : Duration) (latest : Except InspectionError UInt64)
  | hangs

/-- A question that is out: when it is answered and how, and its time limit. -/
structure ChainProbe where
  answer : Option (Tick × Except InspectionError UInt64)
  limit : Tick

namespace ChainProbe

def start (s : InspectionSettings) (now : Instant) (a : ChainAnswer) : ChainProbe :=
  { answer := match a with
      | .answers after latest => some (dueAfter now after, latest)
      | .hangs => none
    limit := dueAfter now s.probeTimeout }

def timers (p : ChainProbe) : List Tick := (p.answer.map (·.1)).toList ++ [p.limit]

/-- The block to inspect when the chain has answered or failed to. -/
def target (s : InspectionSettings) : Except InspectionError UInt64 → Option UInt64
  | .ok block => if s.isInspectionBlock block then some block else none
  | .error _ => some 0

/-- The block to inspect, if any, once the question is settled. -/
def settle? (s : InspectionSettings) (now : Instant) (p : ChainProbe) : Option (Option UInt64) :=
  match p.answer with
  | some (at_, latest) =>
    if isDue now at_ then some (target s latest)
    else if isDue now p.limit then some (some 0)
    else none
  | none => if isDue now p.limit then some (some 0) else none

end ChainProbe

end NodeKeeper
