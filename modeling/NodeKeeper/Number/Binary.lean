/-
# Doubles as exact numbers

A finite double is a whole number times a power of two.  Rounding to whole
numbers and cutting a double into a count of smaller units are done on that
exact value, so nothing depends on how a machine rounds.
-/
namespace NodeKeeper.Number

/-- The size of a finite double, `m * 2 ^ q`. -/
structure Binary where
  m : Nat
  q : Int
  /-- the gap to the double below is half the gap to the one above -/
  narrowBelow : Bool
  deriving DecidableEq, Repr

/-- The size of the double with these bits; the sign is ignored.  Meant for
finite doubles. -/
def Binary.ofBits (b : UInt64) : Binary :=
  let e := ((b >>> 52) &&& 0x7FF).toNat
  let f := (b &&& 0xFFFFFFFFFFFFF).toNat
  if e = 0 then ⟨f, -1074, false⟩
  else ⟨0x10000000000000 + f, (e : Int) - 1075, f == 0 && e > 1⟩

/-- Is the sign bit set? -/
def signBit (x : Float) : Bool := x.toBits >>> 63 == 1

/-- Neither infinite nor NaN. -/
def isFinite (x : Float) : Bool := (x.toBits >>> 52) &&& 0x7FF != 0x7FF

/-- How a quotient is rounded when it lies midway between two whole numbers. -/
inductive Tie where
  | toEven
  | up
  deriving DecidableEq, Repr

/-- The whole number nearest to `num / den`. -/
def roundDiv (tie : Tie) (num den : Nat) : Nat :=
  let whole := num / den
  match compare (2 * (num % den)) den, tie with
  | .lt, _ => whole
  | .gt, _ => whole + 1
  | .eq, .up => whole + 1
  | .eq, .toEven => if whole % 2 = 0 then whole else whole + 1

/-- The whole number of `unit`-ths nearest to the size of a finite double. -/
def roundedUnits (tie : Tie) (x : Float) (unit : Nat) : Nat :=
  let b := Binary.ofBits x.toBits
  roundDiv tie (b.m * unit * Nat.pow 2 b.q.toNat) (Nat.pow 2 (-b.q).toNat)

/-- The whole number nearest to a positive finite double, halves upwards. -/
def roundHalfUp (x : Float) : Nat := roundedUnits .up x 1

/-- The double nearest to a whole number. -/
def doubleOfNat (n : Nat) : Float := Float.ofScientific n false 0

/-- The bits of a double, with one form for every NaN. -/
def canonicalBits (x : Float) : UInt64 :=
  if x.isNaN then 0x7FF8000000000000 else x.toBits

/-- `a ^ n` by repeated squaring, in the order of the binary digits of `n` from
the lowest.  The fuel is the number of binary digits. -/
def powerBySquaring (a : Float) (n : Nat) : Float :=
  go (n.log2 + 1) 1.0 a n
where
  /-- Multiplies in the squares that belong to set bits. -/
  go : Nat → Float → Float → Nat → Float
    | 0, r, _, _ => r
    | fuel + 1, r, a, n =>
      let r := if n % 2 = 1 then r * a else r
      if n / 2 = 0 then r else go fuel r (a * a) (n / 2)

end NodeKeeper.Number
