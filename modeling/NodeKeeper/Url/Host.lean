/-
# Hosts of addresses

A host is a domain in ASCII, an address of four numbers, or an address of eight
groups.  A domain whose last label is a number must be an address of four
numbers.

A domain that is not ASCII is brought to one form before it is encoded, and may be
refused.  The tables below do this for the code points that they list, and for
no others: letters of Latin, Greek, Cyrillic, Armenian and full-width writing have
their small forms, and of what is dropped, refused, or combines with a letter the
blocks in common use are here.  Any other code point stands for itself, so a
domain in another writing is taken as it is spelled: it is neither composed nor
mapped to other characters, and it is not refused.
-/
import NodeKeeper.Text.Pieces
import NodeKeeper.Url.Percent
import NodeKeeper.Url.Punycode

namespace NodeKeeper.Url

open Text

inductive Host where
  | domain (name : String)
  /-- the four bytes as one number -/
  | v4 (n : Nat)
  | v6 (groups : List Nat)
  /-- the host of an address whose scheme has no rules for it -/
  | verbatim (name : String)
  deriving DecidableEq, Repr

/-! ## Domains -/

/-- Code points that are dropped from a domain. -/
def droppedRanges : List (Nat × Nat) :=
  [(0xAD, 0xAD), (0x34F, 0x34F), (0x180B, 0x180F), (0x200B, 0x200B), (0x2060, 0x2060),
   (0x2064, 0x2064), (0xFE00, 0xFE0F), (0xFEFF, 0xFEFF), (0xE0100, 0xE01EF)]

/-- Code points that no domain may contain: controls, spaces, marks of writing
direction, private use and non-characters. -/
def refusedRanges : List (Nat × Nat) :=
  [(0x80, 0xA0), (0x1680, 0x1680), (0x180E, 0x180E), (0x2000, 0x200A), (0x200E, 0x200F),
   (0x2028, 0x202F), (0x205F, 0x205F), (0x2061, 0x2063), (0x2065, 0x206F), (0x3000, 0x3000),
   (0xD800, 0xF8FF), (0xFDD0, 0xFDEF), (0xFFF9, 0xFFFF), (0xE0000, 0xE00FF),
   (0xF0000, 0x10FFFF)]

/-- Signs that silence the vowel of the letter before them. -/
def silencerRanges : List (Nat × Nat) :=
  [(0x94D, 0x94D), (0x9CD, 0x9CD), (0xA4D, 0xA4D), (0xACD, 0xACD), (0xB4D, 0xB4D),
   (0xBCD, 0xBCD), (0xC4D, 0xC4D), (0xCCD, 0xCCD), (0xD3B, 0xD3C), (0xD4D, 0xD4D),
   (0xDCA, 0xDCA), (0xE3A, 0xE3A), (0xEBA, 0xEBA), (0xF84, 0xF84), (0x1039, 0x103A),
   (0x1714, 0x1715), (0x1734, 0x1734), (0x17D2, 0x17D2), (0x1A60, 0x1A60), (0x1B44, 0x1B44),
   (0x1BAA, 0x1BAB), (0x1BF2, 0x1BF3), (0x2D7F, 0x2D7F), (0xA806, 0xA806), (0xA82C, 0xA82C),
   (0xA8C4, 0xA8C4), (0xA953, 0xA953), (0xA9C0, 0xA9C0), (0xAAF6, 0xAAF6), (0xABED, 0xABED)]

/-- Marks that combine with the letter before them, so that no label begins
with one. -/
def markRanges : List (Nat × Nat) :=
  [(0x300, 0x36F), (0x483, 0x489), (0x591, 0x5BD), (0x610, 0x61A), (0x64B, 0x65F),
   (0x670, 0x670), (0x900, 0x903), (0x93A, 0x93C), (0x93E, 0x94F), (0xE31, 0xE31),
   (0xE34, 0xE3A), (0xE47, 0xE4E), (0x1AB0, 0x1ACE), (0x1DC0, 0x1DFF), (0x20D0, 0x20F0),
   (0x302A, 0x302F), (0x3099, 0x309A), (0xFE20, 0xFE2F)]

/-- Letters whose lower-case form is the next code point, every second one. -/
def pairedRanges : List (Nat × Nat) :=
  [(0x100, 0x12E), (0x132, 0x136), (0x14A, 0x176), (0x1DE, 0x1EE), (0x1F8, 0x21E),
   (0x222, 0x232), (0x3D8, 0x3EE), (0x460, 0x480), (0x48A, 0x4BE), (0x4D0, 0x52E),
   (0x1E00, 0x1E94), (0x1EA0, 0x1EFE)]

/-- Letters in pairs whose upper-case form has the odd code point. -/
def oddPairedRanges : List (Nat × Nat) := [(0x139, 0x147), (0x179, 0x17D), (0x4C1, 0x4CD)]

/-- The form of a character in a domain: lower case, without width. -/
def foldChar (c : Char) : List Char :=
  let n := c.toNat
  if inRanges droppedRanges n then []
  else if 0x41 ≤ n ∧ n ≤ 0x5A then [Char.ofNat (n + 32)]
  else if n = 0x3002 ∨ n = 0xFF0E ∨ n = 0xFF61 then ['.']
  else if 0xFF21 ≤ n ∧ n ≤ 0xFF3A then [Char.ofNat (n - 0xFEC0)]
  else if 0xFF01 ≤ n ∧ n ≤ 0xFF5E then [Char.ofNat (n - 0xFEE0)]
  else if 0xC0 ≤ n ∧ n ≤ 0xDE ∧ n ≠ 0xD7 then [Char.ofNat (n + 32)]
  else if n = 0xAA then ['a']
  else if n = 0xBA then ['o']
  else if n = 0xB2 then ['2']
  else if n = 0xB3 then ['3']
  else if n = 0xB9 then ['1']
  else if n = 0xB5 then ['\u03BC']
  else if n = 0x130 then ['i', '\u0307']
  else if n = 0x178 then ['\u00FF']
  else if n = 0x17F then ['s']
  else if n = 0x1E9E then ['\u00DF']
  else if 0x391 ≤ n ∧ n ≤ 0x3AB ∧ n ≠ 0x3A2 then [Char.ofNat (n + 32)]
  else if 0x410 ≤ n ∧ n ≤ 0x42F then [Char.ofNat (n + 32)]
  else if 0x400 ≤ n ∧ n ≤ 0x40F then [Char.ofNat (n + 80)]
  else if 0x531 ≤ n ∧ n ≤ 0x556 then [Char.ofNat (n + 48)]
  else if n = 0x212A then ['k']
  else if n = 0x212B then ['\u00E5']
  else if 0x2160 ≤ n ∧ n ≤ 0x216F then [Char.ofNat (n + 16)]
  else if inRanges pairedRanges n ∧ n % 2 = 0 then [Char.ofNat (n + 1)]
  else if inRanges oddPairedRanges n ∧ n % 2 = 1 then [Char.ofNat (n + 1)]
  else [c]

/-- ASCII characters that no domain may contain. -/
def isRefusedAscii (c : Char) : Bool :=
  c.toNat ≤ 0x20 || c.toNat == 0x7F ||
    ['#', '/', ':', '<', '>', '?', '@', '[', '\\', ']', '^', '|', '%'].contains c

/-- Are the joiners of a label, which have no width, each after a sign that
silences a vowel?  `silenced` tells whether such a sign came just before. -/
def joinersStand (silenced : Bool) : List Char → Bool
  | [] => true
  | c :: cs =>
    (silenced || ! (c == '\u200C' || c == '\u200D')) &&
      joinersStand (inRanges silencerRanges c.toNat) cs

/-- May the characters stand together as a label that is not ASCII? -/
def isLabel (cs : List Char) : Bool :=
  ! (cs.head?.map fun c => inRanges markRanges c.toNat).getD false && joinersStand false cs

/-- A label in ASCII.  One that is marked as encoded must be the code of a label
that is not ASCII. -/
def asciiLabel? (label : List Char) : Option (List Char) :=
  if label.all (·.toNat < 128) then
    match label with
    | 'x' :: 'n' :: '-' :: '-' :: code =>
      match Punycode.decode? code with
      | some cs =>
        if cs.any (128 ≤ ·.toNat) && ! cs.any (fun c => inRanges refusedRanges c.toNat) &&
            cs.flatMap foldChar == cs && isLabel cs then some label
        else none
      | none => none
    | _ => some label
  else if isLabel label then some (['x', 'n', '-', '-'] ++ Punycode.encode label)
  else none

/-- A domain in ASCII. -/
def asciiDomain? (s : String) : Option (List Char) := do
  let cs := s.toList.flatMap foldChar
  if cs.any fun c => isRefusedAscii c || inRanges refusedRanges c.toNat then none
  let labels ← (pieces (· == '.') cs).mapM asciiLabel?
  pure ((labels.intersperse ['.']).flatten)

/-! ## Addresses of four numbers -/

/-- A part of an address: decimal, octal after `0` or hexadecimal after `0x`. -/
def numberPart? (cs : List Char) : Option Nat :=
  let read (base : Nat) (ds : List Char) : Option Nat :=
    ds.foldlM (fun n c => (digitValue? base c).map (n * base + ·)) 0
  match cs with
  | [] => none
  | ['0'] => some 0
  | '0' :: 'x' :: ds => read 16 ds
  | '0' :: 'X' :: ds => read 16 ds
  | '0' :: ds => read 8 ds
  | ds => read 10 ds

/-- The parts of a domain, without an empty last one. -/
def parts (cs : List Char) : List (List Char) :=
  let ps := pieces (· == '.') cs
  if 1 < ps.length ∧ ps.getLast? = some [] then ps.dropLast else ps

/-- Is the last part of a domain a number? -/
def endsInNumber (cs : List Char) : Bool :=
  match (parts cs).getLast? with
  | none => false
  | some [] => false
  | some p =>
    p.all Char.isDigit ||
    match p with
    | '0' :: 'x' :: ds => ds.all fun c => (digitValue? 16 c).isSome
    | '0' :: 'X' :: ds => ds.all fun c => (digitValue? 16 c).isSome
    | _ => false

/-- The number of an address of up to four parts; the last part fills the bytes
that the others leave. -/
def v4? (cs : List Char) : Option Nat := do
  let ps := parts cs
  if 4 < ps.length then none
  let ns ← ps.mapM numberPart?
  let last ← ns.getLast?
  let front := ns.dropLast
  if front.any (255 < ·) then none
  if Nat.pow 256 (5 - ns.length) ≤ last then none
  pure (front.zipIdx.foldl (fun sum (n, i) => sum + n * Nat.pow 256 (3 - i)) last)

/-! ## Addresses of eight groups -/

/-- A number from 0 to 255 without a needless leading zero. -/
def byte? (cs : List Char) : Option Nat :=
  if cs.isEmpty ∨ 3 < cs.length ∨ ¬ cs.all Char.isDigit ∨
      (cs.head? = some '0' ∧ 1 < cs.length) then none
  else
    let n := cs.foldl (fun n c => n * 10 + (c.toNat - 48)) 0
    if n ≤ 255 then some n else none

/-- A group of up to four hexadecimal digits. -/
def group? (cs : List Char) : Option Nat :=
  if cs.isEmpty ∨ 4 < cs.length then none
  else cs.foldlM (fun n c => (digitValue? 16 c).map (n * 16 + ·)) 0

/-- The groups of a text; the last may be four numbers with points. -/
def groups? (cs : List Char) : Option (List Nat) :=
  if cs.isEmpty then some []
  else
    let ps := pieces (· == ':') cs
    match ps.getLast? with
    | none => none
    | some last =>
      if last.contains '.' then do
        let front ← ps.dropLast.mapM group?
        match ← (pieces (· == '.') last).mapM byte? with
        | [a, b, c, d] => pure (front ++ [a * 256 + b, c * 256 + d])
        | _ => none
      else ps.mapM group?

/-- Cuts a text at the first two colons in a row. -/
def cutGap : List Char → Option (List Char × List Char)
  | ':' :: ':' :: r => some ([], r)
  | c :: r => (cutGap r).map fun (a, b) => (c :: a, b)
  | [] => none

/-- The eight groups of an address; two colons stand for groups of zeros. -/
def v6? (cs : List Char) : Option (List Nat) :=
  match cutGap cs with
  | none => do
    let gs ← groups? cs
    if gs.length = 8 then pure gs else none
  | some (a, b) => do
    if a.contains '.' then none
    let front ← groups? a
    let back ← groups? b
    let zeros := 8 - (front.length + back.length)
    if 8 ≤ front.length + back.length then none
    pure (front ++ List.replicate zeros 0 ++ back)

/-- The longest run of at least two zeros, the first of several: its start and
its length. -/
def longestZeros (gs : List Nat) : Option (Nat × Nat) :=
  let runAt (i : Nat) : Nat := ((gs.drop i).takeWhile (· == 0)).length
  (List.range gs.length).foldl (fun best i =>
    let n := runAt i
    match best with
    | some (_, m) => if m < n then some (i, n) else best
    | none => if 2 ≤ n then some (i, n) else none) none

/-- Groups with colons between them. -/
def writeGroups (gs : List Nat) : List Char :=
  ((gs.map (Nat.toDigits 16)).intersperse [':']).flatten

/-- The text of eight groups. -/
def writeV6 (gs : List Nat) : List Char :=
  match longestZeros gs with
  | none => writeGroups gs
  | some (i, n) => writeGroups (gs.take i) ++ ':' :: ':' :: writeGroups (gs.drop (i + n))

/-! ## Hosts -/

/-- The address in brackets. -/
def bracketed? (cs : List Char) : Option Host :=
  match cs with
  | '[' :: rest =>
    if rest.getLast? = some ']' then (v6? rest.dropLast).map .v6 else none
  | _ => none

/-- The host of an address with a scheme whose hosts have rules. -/
def Host.read? (cs : List Char) : Option Host := do
  if cs.head? = some '[' then bracketed? cs
  else
    let s ← String.fromUTF8? ⟨(percentDecode (bytesOf (String.ofList cs))).toArray⟩
    let name ← asciiDomain? s
    if name.isEmpty then none
    else if endsInNumber name then (v4? name).map .v4
    else pure (.domain (String.ofList name))

/-- The host of an address with any other scheme; it may be empty. -/
def Host.readVerbatim? (cs : List Char) : Option Host :=
  if cs.head? = some '[' then bracketed? cs
  else
    let refused (c : Char) : Bool :=
      ['\x00', '\t', '\n', '\r', ' ', '#', '/', ':', '<', '>', '?', '@', '[', '\\', ']',
        '^', '|'].contains c
    if cs.any refused then none
    else some (.verbatim (String.ofList (percentEncode [] cs)))

def Host.write : Host → List Char
  | .domain name => name.toList
  | .v4 n =>
    ((List.range 4).map fun i => Nat.toDigits 10 (n / Nat.pow 256 (3 - i) % 256)).intersperse ['.']
      |>.flatten
  | .v6 gs => '[' :: (writeV6 gs ++ [']'])
  | .verbatim name => name.toList

end NodeKeeper.Url
