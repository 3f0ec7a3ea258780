/-
# Reading a double

The grammar of a double in a setting: an optional sign, then `inf`, `infinity`
or `nan` in any case, or decimal digits with at most one point and an optional
exponent.  The value is the double nearest to the decimal.
-/
import NodeKeeper.Number.Binary
import NodeKeeper.Text.Ascii

namespace NodeKeeper.Number

open Text

/-- The whole number written by a list of decimal digits. -/
def natOfDigits (ds : List Char) : Nat :=
  ds.foldl (fun n c => n * 10 + (c.toNat - 48)) 0

/-- The double nearest to `mantissa * 10 ^ exp`.  Beyond the range of doubles
the exponent decides, so that no huge power is computed. -/
def nearestDouble (mantissa : Nat) (exp : Int) : Float :=
  if mantissa = 0 then 0.0
  else
    let lead : Int := exp + (Nat.toDigits 10 mantissa).length
    if 400 < lead then Float.ofBits 0x7FF0000000000000
    else if lead < -400 then 0.0
    else Float.ofScientific mantissa (exp < 0) exp.natAbs

/-- Reads an optional exponent that must end the text. -/
def readExponent? : List Char → Option Int
  | [] => some 0
  | c :: cs =>
    if c = 'e' ∨ c = 'E' then
      let (negative, ds) := match cs with
        | '-' :: r => (true, r)
        | '+' :: r => (false, r)
        | r => (false, r)
      if ds.isEmpty ∨ ¬ ds.all Char.isDigit then none
      else
        let n : Int := natOfDigits ds
        some (if negative then -n else n)
    else none

/-- Reads unsigned digits, point and exponent. -/
def readUnsignedDouble? (cs : List Char) : Option Float :=
  let whole := cs.takeWhile Char.isDigit
  let (fraction, rest) := match cs.dropWhile Char.isDigit with
    | '.' :: r => (r.takeWhile Char.isDigit, r.dropWhile Char.isDigit)
    | r => ([], r)
  if whole.isEmpty ∧ fraction.isEmpty then none
  else
    (readExponent? rest).map fun e =>
      nearestDouble (natOfDigits (whole ++ fraction)) (e - fraction.length)

/-- The double a text denotes. -/
def readDouble? (s : String) : Option Float :=
  let (negative, body) := match s.toList with
    | '-' :: r => (true, r)
    | '+' :: r => (false, r)
    | r => (false, r)
  let size := match String.ofList (body.map lowerChar) with
    | "inf" => some (Float.ofBits 0x7FF0000000000000)
    | "infinity" => some (Float.ofBits 0x7FF0000000000000)
    | "nan" => some (Float.ofBits 0x7FF8000000000000)
    | _ => readUnsignedDouble? body
  size.map fun x => if negative then -x else x

end NodeKeeper.Number
