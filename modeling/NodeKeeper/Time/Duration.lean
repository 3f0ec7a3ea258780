/-
# Durations

A span of time in whole nanoseconds, at most 2 ^ 64 - 1 seconds and 999999999
nanoseconds.  Sums stop at that bound.
-/
import NodeKeeper.Number.Binary

namespace NodeKeeper

open Number

/-- The nanoseconds of the longest duration. -/
def maxNanos : Nat := 0xFFFFFFFFFFFFFFFF * 1000000000 + 999999999

structure Duration where
  nanos : Nat
  bounded : nanos ≤ maxNanos
  deriving DecidableEq

namespace Duration

/-- The duration of a number of nanoseconds, cut off at the longest one. -/
def ofNanos (n : Nat) : Duration := ⟨min n maxNanos, Nat.min_le_right ..⟩

def ofMillis (n : Nat) : Duration := ofNanos (n * 1000000)

def ofSecs (n : Nat) : Duration := ofNanos (n * 1000000000)

/-- The duration of whole seconds and nanoseconds, if it is not too long. -/
def ofParts? (secs nanos : Nat) : Option Duration :=
  let total := secs * 1000000000 + nanos
  if h : total ≤ maxNanos then some ⟨total, h⟩ else none

def zero : Duration := ofNanos 0

instance : Inhabited Duration := ⟨zero⟩

instance : LE Duration := ⟨fun a b => a.nanos ≤ b.nanos⟩

instance : LT Duration := ⟨fun a b => a.nanos < b.nanos⟩

instance (a b : Duration) : Decidable (a ≤ b) := inferInstanceAs (Decidable (a.nanos ≤ b.nanos))

instance (a b : Duration) : Decidable (a < b) := inferInstanceAs (Decidable (a.nanos < b.nanos))

/-- The sum, cut off at the longest duration. -/
def add (a b : Duration) : Duration := ofNanos (a.nanos + b.nanos)

/-- The shorter of two durations. -/
def shorter (a b : Duration) : Duration := if a ≤ b then a else b

/-- The whole seconds. -/
def secs (d : Duration) : Nat := d.nanos / 1000000000

/-- The nanoseconds beyond the whole seconds. -/
def subsec (d : Duration) : Nat := d.nanos % 1000000000

/-- The whole milliseconds. -/
def millis (d : Duration) : Nat := d.nanos / 1000000

/-- The seconds as a double: whole seconds and fraction are rounded apart. -/
def toSeconds (d : Duration) : Float :=
  doubleOfNat d.secs + doubleOfNat d.subsec / 1e9

/-- The duration nearest to a number of seconds, midway to an even number of
nanoseconds; none if it is negative, no number, or too long. -/
def ofSeconds? (x : Float) : Option Duration :=
  if x < 0.0 || ¬ isFinite x then none
  else
    let n := roundedUnits .toEven x 1000000000
    if h : n ≤ maxNanos then some ⟨n, h⟩ else none

/-- A whole part and a fraction of the given number of digits, without zeros at
the end. -/
def writeParts (whole fraction digits : Nat) : List Char :=
  let ds := Nat.toDigits 10 fraction
  let padded := List.replicate (digits - ds.length) '0' ++ ds
  let shown := (padded.reverse.dropWhile (· == '0')).reverse
  let point := if shown.isEmpty then [] else '.' :: shown
  Nat.toDigits 10 whole ++ point

/-- The text of a duration: the largest unit with a whole part that is not
zero. -/
def text (d : Duration) : String :=
  let cs :=
    if 0 < d.secs then writeParts d.secs d.subsec 9 ++ ['s']
    else if 1000000 ≤ d.nanos then
      writeParts (d.nanos / 1000000) (d.nanos % 1000000) 6 ++ ['m', 's']
    else if 1000 ≤ d.nanos then
      writeParts (d.nanos / 1000) (d.nanos % 1000) 3 ++ ['µ', 's']
    else Nat.toDigits 10 d.nanos ++ ['n', 's']
  String.ofList cs

end Duration

end NodeKeeper
