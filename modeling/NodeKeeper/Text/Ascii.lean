/-
# ASCII letters and digits

Case folding and digit values of the ASCII characters only; every other
character stands for itself.
-/
namespace NodeKeeper.Text

/-- The lower-case form of an ASCII letter; other characters are unchanged. -/
def lowerChar (c : Char) : Char :=
  if 'A' ≤ c ∧ c ≤ 'Z' then Char.ofNat (c.toNat + 32) else c

/-- The text with its ASCII letters in lower case. -/
def lower (s : String) : String := String.ofList (s.toList.map lowerChar)

/-- Equality up to the case of ASCII letters. -/
def sameIgnoringCase (a b : String) : Bool :=
  a.toList.map lowerChar == b.toList.map lowerChar

/-- The value of a digit in a base of at most 16, letters in either case. -/
def digitValue? (base : Nat) (c : Char) : Option Nat :=
  let n := c.toNat
  let v :=
    if 48 ≤ n ∧ n ≤ 57 then n - 48
    else if 97 ≤ n ∧ n ≤ 102 then n - 87
    else if 65 ≤ n ∧ n ≤ 70 then n - 55
    else base
  if v < base then some v else none

/-- The lower-case digit of a value below 16. -/
def digitChar (d : Nat) : Char :=
  if d < 10 then Char.ofNat (48 + d) else Char.ofNat (87 + d)

/-- Two lower-case hexadecimal digits for each byte. -/
def hexOfBytes (bytes : List UInt8) : String :=
  String.ofList (bytes.flatMap fun b => [digitChar (b.toNat / 16), digitChar (b.toNat % 16)])

/-- Does the second text start the first? -/
def startsWith (s start : String) : Bool := start.toList.isPrefixOf s.toList

/-- Does `needle` occur in the list as a run of neighbours? -/
def containsRun (needle : List Char) : List Char → Bool
  | [] => needle.isEmpty
  | c :: cs => needle.isPrefixOf (c :: cs) || containsRun needle cs

/-- Does the second text occur inside the first? -/
def contains (s needle : String) : Bool := containsRun needle.toList s.toList

end NodeKeeper.Text
