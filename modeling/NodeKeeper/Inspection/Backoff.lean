/-
# How long to wait before another attempt

The delay grows by a factor with every failed attempt, up to a largest delay.
No further attempt is made when waiting would take the whole operation beyond a
total time.
-/
import NodeKeeper.Json.Decode

namespace NodeKeeper

open Json

structure RetryPolicy where
  initial : Duration
  multiplier : Float
  maxInterval : Duration
  maxElapsed : Duration

namespace RetryPolicy

def standard : RetryPolicy := ⟨.ofSecs 3, 1.5, .ofSecs 30, .ofSecs 300⟩

/-- The delay after a number of failed attempts, at least one. -/
def intervalAfter (p : RetryPolicy) (failed : Nat) : Duration :=
  let exponent := min (failed - 1) 0x7FFFFFFF
  let secs := p.initial.toSeconds * Number.powerBySquaring p.multiplier exponent
  ((Duration.ofSeconds? secs).getD p.maxInterval).shorter p.maxInterval

/-- The delay before the next attempt, or none to give up. -/
def nextDelay (p : RetryPolicy) (failed : Nat) (elapsed : Duration) : Option Duration :=
  if failed = 0 then some .zero
  else
    let delay := p.intervalAfter failed
    if elapsed.add delay ≤ p.maxElapsed then some delay else none

def durationJson (d : Duration) : Value :=
  .object [("secs", .integer d.secs), ("nanos", .integer d.subsec)]

def toJson (p : RetryPolicy) : Value :=
  .object
    [("initial_interval", durationJson p.initial), ("multiplier", .float p.multiplier),
     ("max_interval", durationJson p.maxInterval), ("max_elapsed", durationJson p.maxElapsed)]

def decoder : Decoder RetryPolicy := fun t => do
  match ← Decode.fields ["initial_interval", "multiplier", "max_interval", "max_elapsed"] t with
  | [initial, multiplier, maxInterval, maxElapsed] =>
    pure {
      initial := ← Decode.required Decode.duration initial
      multiplier := ← Decode.required Decode.double multiplier
      maxInterval := ← Decode.required Decode.duration maxInterval
      maxElapsed := ← Decode.required Decode.duration maxElapsed }
  | _ => none

end RetryPolicy

end NodeKeeper
