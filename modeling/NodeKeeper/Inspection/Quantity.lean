/-
# Quantities in chain messages

A quantity is written in hexadecimal after `0x`.
-/
import NodeKeeper.Inspection.Outcome
import NodeKeeper.Number.Integer

namespace NodeKeeper.Quantity

open Number

/-- The digits after the mark `0x` or `0X`. -/
def digits? : List Char → Option (List Char)
  | '0' :: 'x' :: ds => some ds
  | '0' :: 'X' :: ds => some ds
  | _ => none

/-- The number a quantity stands for. -/
def read (raw : String) : Except InspectionError UInt64 :=
  match digits? raw.toList with
  | none => .error (.rpc ("quantity '" ++ raw ++ "' lacks 0x prefix"))
  | some ds =>
    match readUnsigned 16 maxU64 ds with
    | .ok n => .ok n.toUInt64
    | .error e => .error (.rpc ("invalid quantity '" ++ raw ++ "': " ++ e.message))

/-- A number as a quantity, with the fewest digits. -/
def write (n : UInt64) : String := String.ofList ('0' :: 'x' :: digits 16 n.toNat)

end NodeKeeper.Quantity
