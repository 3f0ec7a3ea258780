/-
# Records shown for diagnostics

The form in which diagnostics show a value: a record by its name and its fields
in braces, an optional value as `None` or `Some(…)`, a list in brackets.
-/
import NodeKeeper.Number.Decimal
import NodeKeeper.Text.Quoted

namespace NodeKeeper.Text

open Number

/-- The pieces with a text between them. -/
def joined (separator : String) : List String → String
  | [] => ""
  | [s] => s
  | s :: rest => s ++ separator ++ joined separator rest

/-- A record with named fields. -/
def shownRecord (name : String) (fields : List (String × String)) : String :=
  name ++ " \x7b " ++ joined ", " (fields.map fun (k, v) => k ++ ": " ++ v) ++ " \x7d"

def shownOption : Option String → String
  | none => "None"
  | some s => "Some(" ++ s ++ ")"

def shownList (items : List String) : String := "[" ++ joined ", " items ++ "]"

def shownBool (b : Bool) : String := if b then "true" else "false"

/-- Doubles from 0.0001 up to 10 ^ 16 are shown positionally. -/
def shownLayout : Layout := ⟨-4, 16, .up, false⟩

def shownDouble (x : Float) : String :=
  if x.isNaN then "NaN"
  else if x.isInf then (if signBit x then "-inf" else "inf")
  else shownLayout.write x

end NodeKeeper.Text
