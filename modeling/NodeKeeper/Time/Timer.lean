/-
# Timers

Time is counted in nanoseconds from a start.  Timers go off on whole
milliseconds only: one set for a span is due at the first whole millisecond at
or after its end.

A machine counts these milliseconds in 64 bits: a timer that would go off later
goes off at the last of them, just short of 2 ^ 64.  Whether a span is too long
to be waited it decides by the second in which the span would end on its own
clock, which has to fit into 63 bits.  So what is said here about the timer of a
span is what a machine does

    if the span ends before the last of the milliseconds that are counted, or
    if it is 2 ^ 63 seconds or more, and so counts as thirty years.

Other spans are 584 million years and more.  Here they are waited in full; a
machine cuts them off at its last millisecond, and counts as thirty years those
that end, on its clock, after 2 ^ 63 seconds.
-/
import NodeKeeper.Time.Duration

namespace NodeKeeper

/-- A point in time, in nanoseconds from the start. -/
abbrev Instant := Nat

/-- A whole millisecond from the start. -/
abbrev Tick := Nat

/-- How long a span is waited: one of 2 ^ 63 seconds or more counts as thirty
years. -/
def timerSpan (d : Duration) : Nat :=
  if d.secs < 0x8000000000000000 then d.nanos else 946080000 * 1000000000

/-- When a timer is due that is to wait until a point in time. -/
def dueAt (at_ : Instant) : Tick := (at_ + 999999) / 1000000

/-- When a timer is due that is set now for a span. -/
def dueAfter (now : Instant) (d : Duration) : Tick := dueAt (now + timerSpan d)

/-- Has the whole millisecond been reached? -/
def isDue (now : Instant) (tick : Tick) : Bool := tick ≤ now / 1000000

/-- The time after waiting until a whole millisecond: only whole milliseconds
are waited, so a fraction stays. -/
def waitUntil (now : Instant) (tick : Tick) : Instant :=
  now + (tick - now / 1000000) * 1000000

/-- The time passed between two points. -/
def passed (start finish : Instant) : Duration := .ofNanos (finish - start)

/-- The earliest of several ticks. -/
def earliest? : List Tick → Option Tick
  | [] => none
  | t :: ts => some (ts.foldl min t)

end NodeKeeper
