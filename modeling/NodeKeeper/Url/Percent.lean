/-
# Percent signs

Bytes that may not stand in a part of an address are written as a percent sign
and two hexadecimal digits.
-/
import NodeKeeper.Text.Ascii

namespace NodeKeeper.Url

open Text

/-- The bytes of a text. -/
def bytesOf (s : String) : List UInt8 := s.toUTF8.toList

def isHexDigit (b : UInt8) : Bool := (digitValue? 16 (Char.ofNat b.toNat)).isSome

/-- Turns a percent sign with two hexadecimal digits into the byte it stands
for; other percent signs stay. -/
def percentDecode : List UInt8 → List UInt8
  | 0x25 :: a :: b :: rest =>
    match digitValue? 16 (Char.ofNat a.toNat), digitValue? 16 (Char.ofNat b.toNat) with
    | some h, some l => (h * 16 + l).toUInt8 :: percentDecode rest
    | _, _ => 0x25 :: percentDecode (a :: b :: rest)
  | b :: rest => b :: percentDecode rest
  | [] => []

/-- An upper-case hexadecimal digit. -/
def upperDigit (d : Nat) : Char := if d < 10 then Char.ofNat (48 + d) else Char.ofNat (55 + d)

def percentByte (b : UInt8) : List Char :=
  ['%', upperDigit (b.toNat / 16), upperDigit (b.toNat % 16)]

/-- Writes the bytes of every character that is not ASCII, a control, or among
`extra` with a percent sign. -/
def percentEncode (extra : List Char) (cs : List Char) : List Char :=
  cs.flatMap fun c =>
    if c.toNat < 0x20 || 0x7F ≤ c.toNat || extra.contains c then
      (String.utf8EncodeChar c).flatMap percentByte
    else [c]

def fragmentEncoded : List Char := [' ', '"', '<', '>', '\x60']

def pathEncoded : List Char := fragmentEncoded ++ ['#', '?', '{', '}']

def userInfoEncoded : List Char :=
  pathEncoded ++ ['/', ':', ';', '=', '@', '[', '\\', ']', '^', '|']

def queryEncoded : List Char := [' ', '"', '#', '<', '>']

def specialQueryEncoded : List Char := queryEncoded ++ ['\'']

end NodeKeeper.Url
