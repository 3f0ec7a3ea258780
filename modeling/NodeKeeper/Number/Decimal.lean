/-
# The shortest decimal form of a double

`shortest` picks, among the decimals that read back as a given double, one with
the fewest digits and of these the nearest.  `Layout` holds the decisions a
text format makes about such a decimal: from where to where it is written
positionally, and otherwise with an exponent.
-/
import NodeKeeper.Number.Binary

namespace NodeKeeper.Number

/-- The number `digits * 10 ^ exp`. -/
structure Decimal where
  digits : Nat
  exp : Int
  deriving DecidableEq, Repr

/-- Compares `a * 10 ^ i` with `n * 2 ^ j`, exactly. -/
def compareScaled (a : Nat) (i : Int) (n : Nat) (j : Int) : Ordering :=
  compare (a * Nat.pow 10 i.toNat * Nat.pow 2 (-j).toNat)
    (n * Nat.pow 2 j.toNat * Nat.pow 10 (-i).toNat)

/-- Does the decimal lie among the numbers that round to this double?  They
reach halfway to each neighbour, the ends included when `m` is even. -/
def Binary.readsBack (x : Binary) (d : Decimal) : Bool :=
  let low := if x.narrowBelow then 4 * x.m - 1 else 4 * x.m - 2
  let ends := x.m % 2 == 0
  let below := compareScaled d.digits d.exp low (x.q - 2)
  let above := compareScaled d.digits d.exp (4 * x.m + 2) (x.q - 2)
  (below == .gt || (ends && below == .eq)) && (above == .lt || (ends && above == .eq))

/-- Raises the scale while the value is at least `10 ^ k`. -/
def Binary.scaleFrom (x : Binary) : Nat → Int → Int
  | 0, k => k
  | fuel + 1, k =>
    if compareScaled 1 k x.m x.q == .gt then k else x.scaleFrom fuel (k + 1)

/-- The least `k` with value below `10 ^ k`, for a value that is not zero.  The
start is at or below it, because a binary digit is worth more than 0.3
decimal digits. -/
def Binary.scale (x : Binary) : Int :=
  let magnitude : Int := x.m.log2 + x.q
  x.scaleFrom 40 (if 0 ≤ magnitude then magnitude * 3 / 10 else magnitude * 31 / 100 - 1)

/-- The better of the two neighbours of the value among multiples of
`10 ^ exp`, if one reads back. -/
def Binary.neighbour? (x : Binary) (tie : Tie) (exp : Int) : Option Decimal :=
  let num := x.m * Nat.pow 2 x.q.toNat * Nat.pow 10 (-exp).toNat
  let den := Nat.pow 2 (-x.q).toNat * Nat.pow 10 exp.toNat
  let low := num / den
  let lowFits := x.readsBack ⟨low, exp⟩
  let highFits := x.readsBack ⟨low + 1, exp⟩
  if lowFits && highFits then some ⟨roundDiv tie num den, exp⟩
  else if lowFits then some ⟨low, exp⟩
  else if highFits then some ⟨low + 1, exp⟩
  else none

/-- Moves zeros at the end of the digits into the exponent. -/
def Decimal.strip : Nat → Decimal → Decimal
  | 0, d => d
  | fuel + 1, d =>
    if d.digits ≠ 0 ∧ d.digits % 10 = 0 then strip fuel ⟨d.digits / 10, d.exp + 1⟩ else d

/-- The shortest decimal that reads back as a double that is not zero.
Seventeen digits are always enough; should none fit, the exact value stands. -/
def Binary.shortest (x : Binary) (tie : Tie) : Decimal :=
  let k := x.scale
  let found := (List.range 17).findSome? fun (n : Nat) => x.neighbour? tie (k - ((n : Int) + 1))
  match found with
  | some d => d.strip 20
  | none => ⟨x.m * Nat.pow 2 x.q.toNat * Nat.pow 5 (-x.q).toNat, min x.q 0⟩

/-- How a format writes a shortest decimal. -/
structure Layout where
  /-- exponents of the leading digit from here on are written positionally -/
  plainFrom : Int
  /-- and below here -/
  plainBelow : Int
  /-- which of two equally near decimals is taken -/
  tie : Tie
  /-- whether an exponent that is not negative has a plus sign -/
  plusSign : Bool

/-- Writes digits with their leading digit at `10 ^ lead`. -/
def Layout.place (layout : Layout) (ds : List Char) (lead : Int) : List Char :=
  if layout.plainFrom ≤ lead ∧ lead < layout.plainBelow then
    if lead < 0 then
      '0' :: '.' :: (List.replicate (-lead - 1).toNat '0' ++ ds)
    else
      let whole := (lead + 1).toNat
      if ds.length ≤ whole then
        ds ++ List.replicate (whole - ds.length) '0' ++ ['.', '0']
      else ds.take whole ++ '.' :: ds.drop whole
  else
    let mantissa := match ds with
      | [] => []
      | [d] => [d]
      | d :: rest => d :: '.' :: rest
    let sign := if lead < 0 then ['-'] else if layout.plusSign then ['+'] else []
    mantissa ++ 'e' :: (sign ++ Nat.toDigits 10 lead.natAbs)

/-- The text of a finite double; a whole number keeps a `.0`. -/
def Layout.write (layout : Layout) (x : Float) : String :=
  let sign := if signBit x then ['-'] else []
  let b := Binary.ofBits x.toBits
  let body :=
    if b.m = 0 then ['0', '.', '0']
    else
      let d := b.shortest layout.tie
      let ds := Nat.toDigits 10 d.digits
      layout.place ds (d.exp + ds.length - 1)
  String.ofList (sign ++ body)

end NodeKeeper.Number
