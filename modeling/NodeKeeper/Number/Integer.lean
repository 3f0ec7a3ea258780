/-
# Reading and writing unsigned integers

An unsigned integer is written with digits of a base, with an optional `+` in
front.  A reader has a largest value and says which of three things is wrong.
-/
import NodeKeeper.Text.Ascii

namespace NodeKeeper.Number

open Text

/-- Why a text is no unsigned integer. -/
inductive IntegerError where
  /-- nothing to read -/
  | empty
  /-- a character that is no digit -/
  | invalidDigit
  /-- above the largest value -/
  | tooLarge
  deriving DecidableEq, Repr

/-- The wording of an integer error. -/
def IntegerError.message : IntegerError → String
  | .empty => "cannot parse integer from empty string"
  | .invalidDigit => "invalid digit found in string"
  | .tooLarge => "number too large to fit in target type"

/-- Reads digits onto the value so far; stops at the first character that is no
digit, or as soon as the value exceeds `limit`, whichever comes first. -/
def readDigits (base limit : Nat) : Nat → List Char → Except IntegerError Nat
  | value, [] => .ok value
  | value, c :: cs =>
    match digitValue? base c with
    | none => .error .invalidDigit
    | some d =>
      let next := value * base + d
      if next ≤ limit then readDigits base limit next cs else .error .tooLarge

/-- An unsigned integer of at most `limit`, in the given base, with an optional
leading plus sign. -/
def readUnsigned (base limit : Nat) : List Char → Except IntegerError Nat
  | [] => .error .empty
  | ['+'] => .error .invalidDigit
  | ['-'] => .error .invalidDigit
  | '+' :: c :: cs => readDigits base limit 0 (c :: cs)
  | cs => readDigits base limit 0 cs

/-- The digits of a number, most significant first, lower case. -/
def digits (base n : Nat) : List Char := Nat.toDigits base n

/-- The largest values of the fixed widths. -/
def maxU16 : Nat := 0xFFFF
def maxU32 : Nat := 0xFFFFFFFF
def maxU64 : Nat := 0xFFFFFFFFFFFFFFFF
def maxI64 : Nat := 0x7FFFFFFFFFFFFFFF

end NodeKeeper.Number
