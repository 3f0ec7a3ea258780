/-
# Writing JSON

The compact form of a value, and a form spread over lines with two spaces of
indentation a level.  A double is written with the fewest digits that read
back; one that is infinite or no number is written `null`.
-/
import NodeKeeper.Json.Value
import NodeKeeper.Number.Decimal
import NodeKeeper.Text.Ascii

namespace NodeKeeper.Json

open Number Text

/-- Doubles from 0.00001 up to 10 ^ 16 are written positionally, others with a
signed exponent. -/
def doubleLayout : Layout := ⟨-5, 16, .toEven, true⟩

def writeDouble (x : Float) : List Char :=
  if isFinite x then (doubleLayout.write x).toList else ['n', 'u', 'l', 'l']

/-- The escaped form of a character inside a text. -/
def escapeChar (c : Char) : List Char :=
  match c with
  | '"' => ['\\', '"']
  | '\\' => ['\\', '\\']
  | '\x08' => ['\\', 'b']
  | '\x0c' => ['\\', 'f']
  | '\n' => ['\\', 'n']
  | '\r' => ['\\', 'r']
  | '\t' => ['\\', 't']
  | c =>
    if c.toNat < 0x20 then
      ['\\', 'u', '0', '0', digitChar (c.toNat / 16), digitChar (c.toNat % 16)]
    else [c]

/-- A text in quotes. -/
def writeText (s : String) : List Char :=
  '"' :: (s.toList.flatMap escapeChar ++ ['"'])

/-- The digits of an integer with its sign. -/
def writeInteger (n : Int) : List Char :=
  if n < 0 then '-' :: Nat.toDigits 10 n.natAbs else Nat.toDigits 10 n.natAbs

mutual

/-- The compact form. -/
def Value.write : Value → List Char
  | .null => ['n', 'u', 'l', 'l']
  | .bool true => ['t', 'r', 'u', 'e']
  | .bool false => ['f', 'a', 'l', 's', 'e']
  | .integer n => writeInteger n
  | .float x => writeDouble x
  | .text s => writeText s
  | .array items => '[' :: (Value.writeItems items ++ [']'])
  | .object members => '{' :: (Value.writeMembers members ++ ['}'])

/-- Values with commas between them. -/
def Value.writeItems : List Value → List Char
  | [] => []
  | [v] => v.write
  | v :: vs => v.write ++ ',' :: Value.writeItems vs

/-- Members with commas between them. -/
def Value.writeMembers : List (String × Value) → List Char
  | [] => []
  | [(k, v)] => writeText k ++ ':' :: v.write
  | (k, v) :: rest => writeText k ++ ':' :: (v.write ++ ',' :: Value.writeMembers rest)

end

/-- The compact text of a value. -/
def Value.compact (v : Value) : String := String.ofList v.write

/-- A new line with the indentation of a level. -/
def newLine (level : Nat) : List Char := '\n' :: List.replicate (2 * level) ' '

mutual

/-- The form spread over lines, inside the given level. -/
def Value.writeLines (level : Nat) : Value → List Char
  | .array [] => ['[', ']']
  | .object [] => ['{', '}']
  | .array items =>
    '[' :: (Value.writeItemLines (level + 1) items ++ newLine level ++ [']'])
  | .object members =>
    '{' :: (Value.writeMemberLines (level + 1) members ++ newLine level ++ ['}'])
  | .null => Value.null.write
  | .bool b => (Value.bool b).write
  | .integer n => (Value.integer n).write
  | .float x => (Value.float x).write
  | .text s => (Value.text s).write

/-- Values on lines of their own. -/
def Value.writeItemLines (level : Nat) : List Value → List Char
  | [] => []
  | [v] => newLine level ++ v.writeLines level
  | v :: vs => newLine level ++ v.writeLines level ++ ',' :: Value.writeItemLines level vs

/-- Members on lines of their own. -/
def Value.writeMemberLines (level : Nat) : List (String × Value) → List Char
  | [] => []
  | [(k, v)] => newLine level ++ writeText k ++ ':' :: ' ' :: v.writeLines level
  | (k, v) :: rest =>
    newLine level ++ writeText k ++ ':' :: ' ' :: (v.writeLines level ++
      ',' :: Value.writeMemberLines level rest)

end

/-- The text of a value spread over lines. -/
def Value.pretty (v : Value) : String := String.ofList (v.writeLines 0)

mutual

/-- The same value with the members of every object in key order. -/
def Value.sorted : Value → Value
  | .array items => .array (Value.sortedItems items)
  | .object members => .object (Value.sortedMembers members [])
  | .null => .null
  | .bool b => .bool b
  | .integer n => .integer n
  | .float x => .float x
  | .text s => .text s

def Value.sortedItems : List Value → List Value
  | [] => []
  | v :: vs => v.sorted :: Value.sortedItems vs

def Value.sortedMembers :
    List (String × Value) → List (String × Value) → List (String × Value)
  | [], done => done
  | (k, v) :: rest, done => Value.sortedMembers rest (putSorted k v.sorted done)

end

/-- The bytes of a text. -/
def utf8 (s : String) : List UInt8 := s.toUTF8.toList

end NodeKeeper.Json
