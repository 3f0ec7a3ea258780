/-
# Numbers, words and dates of a settings file

Values that are written without quotes.  An underscore may stand between two
digits.  A number has no needless leading zero.
-/
import NodeKeeper.Number.Reading
import NodeKeeper.Time.Timestamp
import NodeKeeper.Toml.Value

namespace NodeKeeper.Toml

open Text Number

/-- Digits of a base, with underscores between digits dropped. -/
def digitRun? (base : Nat) : List Char → Option (List Char)
  | [] => none
  | [c] => if (digitValue? base c).isSome then some [c] else none
  | c :: '_' :: d :: cs =>
    if (digitValue? base c).isSome then (digitRun? base (d :: cs)).map (c :: ·) else none
  | c :: d :: cs =>
    if (digitValue? base c).isSome then (digitRun? base (d :: cs)).map (c :: ·) else none

/-- Decimal digits without a needless leading zero. -/
def wholeRun? (cs : List Char) : Option (List Char) := do
  let ds ← digitRun? 10 cs
  if ds.head? = some '0' ∧ ds.length ≠ 1 then none else pure ds

/-- The number written by digits of a base. -/
def numberOf (base : Nat) (ds : List Char) : Nat :=
  ds.foldl (fun n c => n * base + (digitValue? base c).getD 0) 0

/-- An integer; those beyond 128 bits are refused. -/
def integer? (n : Int) (signed : Bool) : Option Value :=
  if signed then (if -Int.pow 2 127 ≤ n then some (.integer n) else none)
  else if n < Int.pow 2 128 then some (.integer n) else none

/-- Cuts a list at the first character that satisfies `p`; the character itself
is dropped. -/
def cutAt? (p : Char → Bool) (cs : List Char) : Option (List Char × List Char) :=
  match cs.dropWhile (! p ·) with
  | [] => none
  | _ :: rest => some (cs.takeWhile (! p ·), rest)

/-- The exponent of a float: a sign and digits. -/
def exponent? (cs : List Char) : Option Int :=
  match cs with
  | '-' :: r => (digitRun? 10 r).map fun ds => -(natOfDigits ds : Int)
  | '+' :: r => (digitRun? 10 r).map fun ds => (natOfDigits ds : Int)
  | r => (digitRun? 10 r).map fun ds => (natOfDigits ds : Int)

/-- An unsigned float with a point, an exponent, or both. -/
def unsignedFloat? (cs : List Char) : Option Float := do
  let (mantissa, exponent) ← match cutAt? (fun c => c == 'e' || c == 'E') cs with
    | some (m, e) => (exponent? e).map fun e => (m, some e)
    | none => some (cs, none)
  let (whole, fraction) ← match cutAt? (· == '.') mantissa with
    | some (w, f) => (digitRun? 10 f).map fun ds => (w, some ds)
    | none => some (mantissa, none)
  if exponent.isNone ∧ fraction.isNone then none
  let ds ← wholeRun? whole
  let fraction := fraction.getD []
  let x := nearestDouble (natOfDigits (ds ++ fraction)) (exponent.getD 0 - fraction.length)
  if x.isInf then none else pure x

/-- A number without its sign; `signed` says whether a minus sign was there. -/
def unsigned? (signed : Bool) (cs : List Char) : Option Value :=
  if cs = ['i', 'n', 'f'] then
    some (.float (if signed then -(1.0 / 0.0) else 1.0 / 0.0))
  else if cs = ['n', 'a', 'n'] then some (.float (0.0 / 0.0))
  else
    match wholeRun? cs with
    | some ds => integer? (if signed then -(natOfDigits ds) else natOfDigits ds) signed
    | none => (unsignedFloat? cs).map fun x => .float (if signed then -x else x)

/-- Exactly `width` digits, and the rest. -/
def fixedDigits? (width : Nat) (cs : List Char) : Option (Nat × List Char) :=
  let ds := cs.take width
  if ds.length = width ∧ ds.all Char.isDigit then some (natOfDigits ds, cs.drop width) else none

/-- A mark, and the rest. -/
def mark? (c : Char) : List Char → Option (List Char)
  | d :: cs => if c = d then some cs else none
  | [] => none

/-- A day such as `1979-05-27`, and the rest. -/
def day? (cs : List Char) : Option (List Char × List Char) := do
  let (year, r) ← fixedDigits? 4 cs
  let (month, r) ← fixedDigits? 2 (← mark? '-' r)
  let (day, r) ← fixedDigits? 2 (← mark? '-' r)
  if (⟨year, month, day⟩ : Day).exists? then
    pure (Timestamp.padded 4 year ++ '-' :: Timestamp.padded 2 month ++
      '-' :: Timestamp.padded 2 day, r)
  else none

/-- A fraction of a second: nine digits count, and zeros at the end are
dropped. -/
def secondFraction (ds : List Char) : List Char :=
  let kept := dropEndZeros (ds.take 9)
  if kept.isEmpty then [] else '.' :: kept
where
  dropEndZeros (ds : List Char) : List Char := (ds.reverse.dropWhile (· == '0')).reverse

/-- A time of day such as `07:32:00.5`, and the rest.  The seconds may be left
out. -/
def timeOfDay? (cs : List Char) : Option (List Char × List Char) := do
  let (hour, r) ← fixedDigits? 2 cs
  let (minute, r) ← fixedDigits? 2 (← mark? ':' r)
  if 24 ≤ hour ∨ 60 ≤ minute then none
  let front := Timestamp.padded 2 hour ++ ':' :: Timestamp.padded 2 minute
  match r with
  | ':' :: r =>
    let (second, r) ← fixedDigits? 2 r
    if 60 < second then none
    let front := front ++ ':' :: Timestamp.padded 2 second
    match r with
    | '.' :: r =>
      let ds := r.takeWhile Char.isDigit
      if ds.isEmpty then none
      else pure (front ++ secondFraction ds, r.dropWhile Char.isDigit)
    | r => pure (front, r)
  | r => pure (front, r)

/-- The offset of a time from universal time; it may be left out. -/
def offset? (cs : List Char) : Option (List Char) :=
  match cs with
  | [] => some []
  | ['Z'] => some ['Z']
  | ['z'] => some ['Z']
  | sign :: r => do
    if sign ≠ '+' ∧ sign ≠ '-' then none
    let (hour, r) ← fixedDigits? 2 r
    let (minute, r) ← fixedDigits? 2 (← mark? ':' r)
    if 24 ≤ hour ∨ 60 ≤ minute ∨ ¬ r.isEmpty then none
    pure (sign :: Timestamp.padded 2 hour ++ ':' :: Timestamp.padded 2 minute)

/-- A date, a time of day or both. -/
def date? (cs : List Char) : Option Value := do
  match day? cs with
  | none =>
    let (time, r) ← timeOfDay? cs
    if r.isEmpty then pure (.date (String.ofList time)) else none
  | some (day, []) => pure (.date (String.ofList day))
  | some (day, sep :: r) =>
    if sep ≠ 'T' ∧ sep ≠ 't' ∧ sep ≠ ' ' then none
    let (time, r) ← timeOfDay? r
    let offset ← offset? r
    pure (.date (String.ofList (day ++ 'T' :: time ++ offset)))

/-- The value of an unquoted word. -/
def Value.ofWord? (cs : List Char) : Option Value :=
  match cs with
  | ['t', 'r', 'u', 'e'] => some (.bool true)
  | ['f', 'a', 'l', 's', 'e'] => some (.bool false)
  | '0' :: 'x' :: ds => (digitRun? 16 ds).bind fun ds => integer? (numberOf 16 ds) false
  | '0' :: 'o' :: ds => (digitRun? 8 ds).bind fun ds => integer? (numberOf 8 ds) false
  | '0' :: 'b' :: ds => (digitRun? 2 ds).bind fun ds => integer? (numberOf 2 ds) false
  | '+' :: r => unsigned? false r
  | '-' :: r => unsigned? true r
  | _ =>
    match unsigned? false cs with
    | some v => some v
    | none => date? cs

end NodeKeeper.Toml
