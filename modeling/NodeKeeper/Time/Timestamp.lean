/-
# Points in time

A point in time in universal time, read from and written in the notation
`2024-05-06T07:08:09.5Z`.

The reader is lenient.  Blanks may stand before each number and before a
separator; the date is followed by `T`, `t` or one space; the offset may be
`Z`, `z`, `UTC`, or a signed hour and minute with or without a colon.  A second
of 60 is a leap second: it is kept as second 59 with a nanosecond count of a
second more.
-/
import NodeKeeper.Number.Reading
import NodeKeeper.Text.Blank

namespace NodeKeeper

open Text Number

/-- A day of the calendar. -/
structure Day where
  year : Int
  month : Nat
  day : Nat
  deriving DecidableEq, Repr

namespace Day

def isLeapYear (year : Int) : Bool :=
  year % 4 == 0 && (year % 100 != 0 || year % 400 == 0)

def monthLength (year : Int) (month : Nat) : Nat :=
  if month = 2 then (if isLeapYear year then 29 else 28)
  else if month = 4 ∨ month = 6 ∨ month = 9 ∨ month = 11 then 30
  else 31

/-- The days from 1 January 1970.  Years are counted from March, so that the
day added by a leap year is the last one. -/
def toEpochDay (d : Day) : Int :=
  let y := if d.month ≤ 2 then d.year - 1 else d.year
  let era := y / 400
  let yearOfEra := y - era * 400
  let monthFromMarch : Int := (d.month + 9) % 12
  let dayOfYear := (153 * monthFromMarch + 2) / 5 + (d.day : Int) - 1
  let dayOfEra := yearOfEra * 365 + yearOfEra / 4 - yearOfEra / 100 + dayOfYear
  era * 146097 + dayOfEra - 719468

/-- The day a number of days from 1 January 1970. -/
def ofEpochDay (n : Int) : Day :=
  let z := n + 719468
  let era := z / 146097
  let dayOfEra := z - era * 146097
  let yearOfEra := (dayOfEra - dayOfEra / 1460 + dayOfEra / 36524 - dayOfEra / 146096) / 365
  let dayOfYear := dayOfEra - (365 * yearOfEra + yearOfEra / 4 - yearOfEra / 100)
  let monthFromMarch := (5 * dayOfYear + 2) / 153
  let day := (dayOfYear - (153 * monthFromMarch + 2) / 5 + 1).toNat
  let month := if monthFromMarch < 10 then monthFromMarch + 3 else monthFromMarch - 9
  let year := yearOfEra + era * 400 + (if month ≤ 2 then 1 else 0)
  ⟨year, month.toNat, day⟩

/-- The first and the last year of the calendar. -/
def firstYear : Int := -262143
def lastYear : Int := 262142

/-- Does the calendar have this day? -/
def exists? (d : Day) : Bool :=
  firstYear ≤ d.year && d.year ≤ lastYear && 1 ≤ d.month && d.month ≤ 12 &&
    1 ≤ d.day && d.day ≤ monthLength d.year d.month

end Day

/-- Seconds since the start of 1970 and nanoseconds; a leap second has
nanoseconds from 1000000000 on. -/
structure Timestamp where
  seconds : Int
  nanos : Nat
  deriving DecidableEq, Repr

namespace Timestamp

instance : Inhabited Timestamp := ⟨⟨0, 0⟩⟩

/-- A number with at least one and at most `width` digits, and the rest. -/
def readNumber? (width : Nat) (cs : List Char) : Option (Nat × List Char) :=
  let ds := (cs.take width).takeWhile Char.isDigit
  if ds.isEmpty then none else some (natOfDigits ds, cs.drop ds.length)

/-- Like `readNumber?`, after blanks. -/
def readField? (width : Nat) (cs : List Char) : Option (Nat × List Char) :=
  readNumber? width (dropBlanks cs)

/-- A separator, after blanks. -/
def readMark? (mark : Char) (cs : List Char) : Option (List Char) :=
  match dropBlanks cs with
  | c :: rest => if c = mark then some rest else none
  | [] => none

/-- A year: up to four digits, or a sign and any number of them. -/
def readYear? (cs : List Char) : Option (Int × List Char) :=
  match dropBlanks cs with
  | '-' :: rest => (readNumber? rest.length rest).map fun (n, r) => (-(n : Int), r)
  | '+' :: rest => (readNumber? rest.length rest).map fun (n, r) => ((n : Int), r)
  | rest => (readNumber? 4 rest).map fun (n, r) => ((n : Int), r)

/-- An optional fraction of a second in nanoseconds; digits after the ninth are
dropped. -/
def readFraction? (cs : List Char) : Option (Nat × List Char) :=
  match cs with
  | '.' :: rest =>
    let ds := rest.takeWhile Char.isDigit
    if ds.isEmpty then none
    else
      let kept := ds.take 9
      some (natOfDigits kept * Nat.pow 10 (9 - kept.length), rest.dropWhile Char.isDigit)
  | _ => some (0, cs)

/-- The offset from universal time in seconds, and the rest. -/
def readOffset? (cs : List Char) : Option (Int × List Char) := do
  let (sign, rest) ← match cs with
    | '+' :: r => some ((1 : Int), r)
    | '-' :: r => some (-1, r)
    | '\u2212' :: r => some (-1, r)
    | _ => none
  let (hours, rest) ← readPair? rest
  let (minutes, rest) ← readPair? (rest.dropWhile fun c => c == ':' || isBlank c)
  if 60 ≤ minutes then none
  pure (sign * (hours * 3600 + minutes * 60), rest)
where
  /-- Exactly two digits. -/
  readPair? : List Char → Option (Nat × List Char)
    | a :: b :: rest => if a.isDigit ∧ b.isDigit then some (natOfDigits [a, b], rest) else none
    | _ => none

/-- The zone: a letter or word for universal time, or an offset. -/
def readZone? (cs : List Char) : Option (Int × List Char) :=
  match cs with
  | 'Z' :: rest => some (0, rest)
  | 'z' :: rest => some (0, rest)
  | a :: b :: c :: rest =>
    if (a = 'U' ∨ a = 'u') ∧ (b = 'T' ∨ b = 't') ∧ (c = 'C' ∨ c = 'c') then some (0, rest)
    else readOffset? cs
  | _ => readOffset? cs

/-- The point in time a text denotes. -/
def read? (s : String) : Option Timestamp := do
  let (year, cs) ← readYear? s.toList
  let cs ← readMark? '-' cs
  let (month, cs) ← readField? 2 cs
  let cs ← readMark? '-' cs
  let (day, cs) ← readField? 2 cs
  let cs ← match cs with
    | 'T' :: r => some r
    | 't' :: r => some r
    | ' ' :: r => some r
    | _ => none
  let (hour, cs) ← readField? 2 cs
  let cs ← readMark? ':' cs
  let (minute, cs) ← readField? 2 cs
  let cs ← readMark? ':' cs
  let (second, cs) ← readField? 2 cs
  let (fraction, cs) ← readFraction? cs
  let (offset, cs) ← readZone? (dropBlanks cs)
  if ¬ (dropBlanks cs).isEmpty then none
  let date : Day := ⟨year, month, day⟩
  if ¬ date.exists? then none
  if 24 ≤ hour ∨ 60 ≤ minute ∨ 60 < second then none
  if 86400 ≤ offset.natAbs then none
  let leap := second = 60
  let inDay : Int := hour * 3600 + minute * 60 + (if leap then 59 else second)
  let seconds := date.toEpochDay * 86400 + inDay - offset
  if ¬ (Day.ofEpochDay (seconds / 86400)).exists? then none
  pure ⟨seconds, if leap then fraction + 1000000000 else fraction⟩

/-- A number with at least `width` digits. -/
def padded (width n : Nat) : List Char :=
  let ds := Nat.toDigits 10 n
  List.replicate (width - ds.length) '0' ++ ds

/-- The year: four digits, or a sign and at least four digits outside 0 to
9999. -/
def writeYear (year : Int) : List Char :=
  if 0 ≤ year ∧ year ≤ 9999 then padded 4 year.natAbs
  else (if year < 0 then '-' else '+') :: padded 4 year.natAbs

/-- No fraction, or one of three, six or nine digits, whichever is exact. -/
def writeFraction (nanos : Nat) : List Char :=
  if nanos = 0 then []
  else if nanos % 1000000 = 0 then '.' :: padded 3 (nanos / 1000000)
  else if nanos % 1000 = 0 then '.' :: padded 6 (nanos / 1000)
  else '.' :: padded 9 nanos

/-- The text of a point in time. -/
def text (t : Timestamp) : String :=
  let day := Day.ofEpochDay (t.seconds / 86400)
  let inDay := (t.seconds % 86400).toNat
  let leap := 1000000000 ≤ t.nanos
  let second := inDay % 60 + (if leap then 1 else 0)
  let nanos := if leap then t.nanos - 1000000000 else t.nanos
  String.ofList <|
    writeYear day.year ++ '-' :: padded 2 day.month ++ '-' :: padded 2 day.day ++
    'T' :: padded 2 (inDay / 3600) ++ ':' :: padded 2 (inDay / 60 % 60) ++
    ':' :: padded 2 second ++ writeFraction nanos ++ ['Z']

end Timestamp

end NodeKeeper
