/-
# Labels in ASCII

A host label with other than ASCII characters is written as its ASCII
characters, a hyphen, and a run of letters and digits that says which
characters to insert where.  The insertions come in increasing order of code
points, each as a difference from the one before, in a notation whose digit
ranges adapt to the sizes met.
-/
namespace NodeKeeper.Url.Punycode

/-- The letter or digit of a value below 36. -/
def digit (d : Nat) : Char := if d < 26 then Char.ofNat (97 + d) else Char.ofNat (22 + d)

/-- The value of a letter or digit. -/
def value? (c : Char) : Option Nat :=
  let n := c.toNat
  if 97 ≤ n ∧ n ≤ 122 then some (n - 97)
  else if 65 ≤ n ∧ n ≤ 90 then some (n - 65)
  else if 48 ≤ n ∧ n ≤ 57 then some (n - 22)
  else none

/-- Where the digits of a number end: a digit below the threshold of its place
is the last one.  Places count 36, 72 and so on. -/
def threshold (bias place : Nat) : Nat := max 1 (min 26 (place - bias))

theorem one_le_threshold (bias place : Nat) : 1 ≤ threshold bias place := Nat.le_max_left ..

theorem threshold_le (bias place : Nat) : threshold bias place ≤ 26 := by
  unfold threshold; omega

/-- Divides by 35 while above 455; also 36 times the number of divisions. -/
def shrink (delta : Nat) : Nat × Nat :=
  if 455 < delta then
    let (d, k) := shrink (delta / 35)
    (d, k + 36)
  else (delta, 0)
termination_by delta
decreasing_by omega

/-- The bias after a difference, when `count` characters stand. -/
def adapt (delta count : Nat) (first : Bool) : Nat :=
  let d := if first then delta / 700 else delta / 2
  let (d, k) := shrink (d + d / count)
  k + 36 * d / (d + 38)

/-- The digits of a number. -/
def encodeNumber (bias place n : Nat) : List Char :=
  let t := threshold bias place
  if n < t then [digit n]
  else digit (t + (n - t) % (36 - t)) :: encodeNumber bias (place + 36) ((n - t) / (36 - t))
termination_by n
decreasing_by
  have h1 := one_le_threshold bias place
  have h2 := threshold_le bias place
  exact Nat.lt_of_le_of_lt (Nat.div_le_self ..) (by omega)

/-- The state of an encoder: its output in reverse, the difference so far, the
bias and the number of characters that stand. -/
structure Encoder where
  out : List Char
  delta : Nat
  bias : Nat
  handled : Nat

/-- Passes over a character of the label while inserting code point `m`. -/
def Encoder.pass (basic m : Nat) (e : Encoder) (c : Char) : Encoder :=
  if c.toNat < m then { e with delta := e.delta + 1 }
  else if c.toNat = m then {
    out := (encodeNumber e.bias 36 e.delta).reverse ++ e.out
    delta := 0
    bias := adapt e.delta (e.handled + 1) (e.handled == basic)
    handled := e.handled + 1 }
  else e

/-- Inserts the code points of a list, in increasing order; `from_` is the least
one that has not been handled. -/
def Encoder.insertAll (label : List Char) (basic : Nat) : List Nat → Nat → Encoder → Encoder
  | [], _, e => e
  | m :: ms, from_, e =>
    let e := { e with delta := e.delta + (m - from_) * (e.handled + 1) }
    let e := label.foldl (Encoder.pass basic m) e
    Encoder.insertAll label basic ms (m + 1) { e with delta := e.delta + 1 }

/-- The encoded label, without its mark. -/
def encode (label : List Char) : List Char :=
  let basic := label.filter (·.toNat < 128)
  let others := (((label.map Char.toNat).filter (128 ≤ ·)).mergeSort (· ≤ ·)).eraseDups
  let e : Encoder := ⟨[], 0, 72, basic.length⟩
  basic ++ (if basic.isEmpty then [] else ['-']) ++
    (e.insertAll label basic.length others 128).out.reverse

/-- Reads a number onto `n`; yields it and the characters that are left. -/
def decodeNumber? (bias : Nat) : Nat → Nat → Nat → List Char → Option (Nat × List Char)
  | _, _, _, [] => none
  | place, weight, n, c :: cs => do
    let d ← value? c
    let t := threshold bias place
    let n := n + d * weight
    if d < t then pure (n, cs) else decodeNumber? bias (place + 36) (weight * (36 - t)) n cs

/-- Inserts the characters that the digits call for.  `fuel` bounds their
number. -/
def insertDecoded? : Nat → Nat → Nat → Nat → List Char → List Char → Option (List Char)
  | _, _, _, _, out, [] => some out
  | 0, _, _, _, _, _ => none
  | fuel + 1, bias, code, index, out, cs => do
    let (n, rest) ← decodeNumber? bias 36 1 index cs
    let count := out.length + 1
    let code := code + n / count
    if 0x10FFFF < code ∨ (0xD800 ≤ code ∧ code < 0xE000) then none
    let out := out.insertIdx (n % count) (Char.ofNat code)
    insertDecoded? fuel (adapt (n - index) count (index == 0)) code (n % count + 1) out rest

/-- The label that an encoded one stands for. -/
def decode? (cs : List Char) : Option (List Char) :=
  let digits := (cs.reverse.takeWhile (· ≠ '-')).reverse
  let basic := (cs.take (cs.length - digits.length)).dropLast
  if basic.any (128 ≤ ·.toNat) then none
  else insertDecoded? digits.length 72 128 0 basic digits

end NodeKeeper.Url.Punycode
