/-
# Bytes as text

Reads bytes as UTF-8.  Where they are not, the replacement character stands for
each longest piece that could have begun a character, or else for one byte.
-/
namespace NodeKeeper.Text

/-- A character of several bytes that is not complete: the bytes that are
missing, the range of the next one, and the bits so far. -/
structure Unfinished where
  missing : Nat
  low : UInt8
  high : UInt8
  bits : Nat
  deriving DecidableEq

/-- What a byte begins: a character, or the first part of one, or nothing. -/
inductive FirstByte where
  | char (c : Char)
  | part (u : Unfinished)
  | stray

/-- The role of a byte at the start of a character. -/
def FirstByte.ofByte (b : UInt8) : FirstByte :=
  let n := b.toNat
  if n < 0x80 then .char (Char.ofNat n)
  else if n < 0xC2 then .stray
  else if n < 0xE0 then .part ⟨1, 0x80, 0xBF, n - 0xC0⟩
  else if n = 0xE0 then .part ⟨2, 0xA0, 0xBF, 0⟩
  else if n = 0xED then .part ⟨2, 0x80, 0x9F, 0xD⟩
  else if n < 0xF0 then .part ⟨2, 0x80, 0xBF, n - 0xE0⟩
  else if n = 0xF0 then .part ⟨3, 0x90, 0xBF, 0⟩
  else if n < 0xF4 then .part ⟨3, 0x80, 0xBF, n - 0xF0⟩
  else if n = 0xF4 then .part ⟨3, 0x80, 0x8F, 4⟩
  else .stray

def replacement : Char := '\uFFFD'

/-- The characters of the bytes, after an unfinished one if there is one. -/
def lossyChars (u : Option Unfinished) : List UInt8 → List Char
  | [] => if u.isSome then [replacement] else []
  | b :: bs =>
    let begin (front : List Char) : List Char :=
      match FirstByte.ofByte b with
      | .char c => front ++ c :: lossyChars none bs
      | .part u => front ++ lossyChars (some u) bs
      | .stray => front ++ replacement :: lossyChars none bs
    match u with
    | none => begin []
    | some u =>
      if u.low ≤ b ∧ b ≤ u.high then
        let bits := u.bits * 64 + (b.toNat - 0x80)
        if u.missing ≤ 1 then Char.ofNat bits :: lossyChars none bs
        else lossyChars (some ⟨u.missing - 1, 0x80, 0xBF, bits⟩) bs
      else begin [replacement]

/-- The text of the bytes. -/
def lossy (bytes : List UInt8) : String := String.ofList (lossyChars none bytes)

end NodeKeeper.Text
