/-
# JSON values

A value whose contents have all been checked: numbers are integers or finite
doubles, texts are well formed.  An object is a list of members; one that was
read has its members in key order, the last of several with one key.

A decimal is read as follows.  Its digits are gathered into a whole number as
long as that stays below 2 ^ 64, and the rest of the digits only move the
point; the whole number, as a double, is then multiplied or divided by a power
of ten.  A decimal beyond the doubles is refused.
-/
import NodeKeeper.Data.Dictionary
import NodeKeeper.Json.Tree
import NodeKeeper.Number.Integer
import NodeKeeper.Number.Reading

namespace NodeKeeper.Json

open Number

inductive Value where
  | null
  | bool (value : Bool)
  | integer (n : Int)
  | float (x : Float)
  | text (s : String)
  | array (items : List Value)
  | object (members : List (String × Value))

instance : Inhabited Value := ⟨.null⟩

/-- A number that was read: an integer that fits 64 bits, signed or unsigned,
or a double. -/
inductive Quantity where
  | integer (n : Int)
  | float (x : Float)

/-- Gathers digits while the whole number fits 64 bits; also the digits left. -/
def gather : Nat → List Char → Nat × List Char
  | n, [] => (n, [])
  | n, c :: cs =>
    let next := n * 10 + (c.toNat - 48)
    if next ≤ maxU64 then gather next cs else (n, c :: cs)

/-- The power of ten as a double, for exponents below 309. -/
def powerOfTen (e : Nat) : Float := Float.ofScientific 1 false e

/-- Scales by a power of ten.  Steps of 308 make the smallest numbers zero, and
four of them make every number zero. -/
def scaleTen : Nat → Float → Int → Option Float
  | 0, _, _ => some 0.0
  | fuel + 1, f, e =>
    if e.natAbs ≤ 308 then
      if 0 ≤ e then
        let r := f * powerOfTen e.natAbs
        if r.isInf then none else some r
      else some (f / powerOfTen e.natAbs)
    else if f == 0.0 then some f
    else if 0 ≤ e then none
    else scaleTen fuel (f / powerOfTen 308) (e + 308)

/-- The number a numeral stands for. -/
def Numeral.quantity? (n : Numeral) : Option Quantity :=
  let signed (x : Float) : Quantity := .float (if n.negative then -x else x)
  let (whole, wholeRest) := gather 0 n.whole
  if wholeRest.isEmpty ∧ n.fraction.isEmpty ∧ n.exponent.isNone then
    if ¬ n.negative then some (.integer whole)
    else if 0 < whole ∧ whole ≤ maxI64 + 1 then some (.integer (-whole))
    else some (signed (doubleOfNat whole))
  else
    let (significand, fractionRest) := gather whole n.fraction
    let shift : Int := wholeRest.length - (n.fraction.length - fractionRest.length : Nat)
    match n.exponent with
    | none => (scaleTen 4 (doubleOfNat significand) shift).map signed
    | some (negative, ds) =>
      let e := natOfDigits ds
      if e ≤ 0x7FFFFFFF then
        let e : Int := if negative then -e else e
        (scaleTen 4 (doubleOfNat significand) (shift + e)).map signed
      else if significand ≠ 0 ∧ ¬ negative then none
      else some (signed 0.0)

/-- How many containers may be nested in one another. -/
def depthLimit : Nat := 127

mutual

/-- The checked value of a tree whose containers are nested at most `depth`
deep. -/
def Tree.value? (depth : Nat) : Tree → Option Value
  | .null => some .null
  | .bool b => some (.bool b)
  | .numeral n => n.quantity?.map fun
    | .integer i => .integer i
    | .float x => .float x
  | .text s => s.map .text
  | .array items =>
    match depth with
    | 0 => none
    | depth + 1 => (Tree.values? depth items).map .array
  | .object members =>
    match depth with
    | 0 => none
    | depth + 1 => (Tree.members? depth members []).map .object

/-- The checked values of the items of an array. -/
def Tree.values? (depth : Nat) : List Tree → Option (List Value)
  | [] => some []
  | t :: ts => do
    let v ← Tree.value? depth t
    let vs ← Tree.values? depth ts
    pure (v :: vs)

/-- The checked members of an object, put in key order. -/
def Tree.members? (depth : Nat) :
    List (Option String × Tree) → List (String × Value) → Option (List (String × Value))
  | [], done => some done
  | (key, t) :: rest, done => do
    let key ← key
    let v ← Tree.value? depth t
    Tree.members? depth rest (putSorted key v done)

end

/-- The value of a JSON text. -/
def Value.read? (bytes : List UInt8) : Option Value :=
  (Tree.read? bytes).bind (Tree.value? depthLimit)

/-- The member of an object with the given key. -/
def Value.member? (key : String) : Value → Option Value
  | .object members => members.lookup key
  | _ => none

end NodeKeeper.Json
