/-
# The silence of block progress

When block progress was last heard of, to the millisecond.  A clock that never
heard of any is silent.
-/
import NodeKeeper.Time.Timer

namespace NodeKeeper

/-- The millisecond of the last signal, counted from the start of the clock. -/
structure WatchdogClock where
  lastSignal : Option Nat
  deriving DecidableEq, Repr

namespace WatchdogClock

def unheard : WatchdogClock := ⟨none⟩

/-- The whole milliseconds since the start; they stop short of 2 ^ 64 - 1. -/
def millisOf (now : Instant) : Nat := min (now / 1000000) 0xFFFFFFFFFFFFFFFE

def signal (now : Instant) : WatchdogClock := ⟨some (millisOf now)⟩

/-- The time since the last signal. -/
def silentFor (c : WatchdogClock) (now : Instant) : Option Duration :=
  c.lastSignal.map fun last => .ofMillis (millisOf now - last)

/-- Has there been no signal for more than the threshold? -/
def isSilent (c : WatchdogClock) (now : Instant) (threshold : Duration) : Bool :=
  match c.silentFor now with
  | none => true
  | some silence => threshold < silence

end WatchdogClock

end NodeKeeper
