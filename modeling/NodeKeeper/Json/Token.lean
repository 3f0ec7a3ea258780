/-
# The tokens of a JSON text

`tokens` cuts the bytes of a JSON text into punctuation, words, numerals and
texts.  A machine reads one byte at a time; between tokens it is `idle`.

A text keeps its content only if that is well formed: the bytes are UTF-8 and
every escaped surrogate has its partner.  A text without content is still a
token, because a reader that skips a field does not look into it.
-/
namespace NodeKeeper.Json

/-- A number as written, cut into its parts. -/
structure Numeral where
  negative : Bool
  whole : List Char
  /-- the digits after the point; none if there is no point -/
  fraction : List Char
  /-- whether the exponent is negative, and its digits -/
  exponent : Option (Bool × List Char)
  deriving DecidableEq, Repr

inductive Token where
  | openArray
  | closeArray
  | openObject
  | closeObject
  | comma
  | colon
  | null
  | bool (value : Bool)
  | numeral (n : Numeral)
  | text (content : Option String)
  deriving DecidableEq, Repr

/-- The exponent of a numeral, which must end it. -/
def Numeral.readExponent? : List Char → Option (Option (Bool × List Char))
  | [] => some none
  | c :: cs =>
    if c = 'e' ∨ c = 'E' then
      let (negative, ds) := match cs with
        | '-' :: r => (true, r)
        | '+' :: r => (false, r)
        | r => (false, r)
      if ds.isEmpty ∨ ¬ ds.all Char.isDigit then none else some (some (negative, ds))
    else none

/-- A numeral: digits without a needless leading zero, then an optional
fraction, then an optional exponent. -/
def Numeral.read? (cs : List Char) : Option Numeral := do
  let (negative, body) := match cs with
    | '-' :: r => (true, r)
    | r => (false, r)
  let whole := body.takeWhile Char.isDigit
  if whole.isEmpty || (whole.head? == some '0' && whole.length != 1) then none
  match body.dropWhile Char.isDigit with
  | '.' :: r =>
    let fraction := r.takeWhile Char.isDigit
    if fraction.isEmpty then none
    let exponent ← readExponent? (r.dropWhile Char.isDigit)
    pure ⟨negative, whole, fraction, exponent⟩
  | r =>
    let exponent ← readExponent? r
    pure ⟨negative, whole, [], exponent⟩

/-- The token spelled by a run of letters, digits, signs and points. -/
def Token.ofRun? (cs : List Char) : Option Token :=
  if cs = ['n', 'u', 'l', 'l'] then some .null
  else if cs = ['t', 'r', 'u', 'e'] then some (.bool true)
  else if cs = ['f', 'a', 'l', 's', 'e'] then some (.bool false)
  else (Numeral.read? cs).map .numeral

/-- The part of a text read so far. -/
structure Partial where
  /-- its bytes, the last one first -/
  bytes : List UInt8
  /-- a leading surrogate that waits for its partner -/
  leading : Option Nat
  /-- no surrogate has been left alone -/
  sound : Bool

namespace Partial

def start : Partial := ⟨[], none, true⟩

/-- Adds a byte that stands for itself. -/
def push (p : Partial) (b : UInt8) : Partial :=
  ⟨b :: p.bytes, none, p.sound && p.leading.isNone⟩

/-- Adds the UTF-8 bytes of a code point that is no surrogate. -/
def pushCode (p : Partial) (n : Nat) : Partial :=
  ⟨(String.utf8EncodeChar (Char.ofNat n)).reverse ++ p.bytes, none, p.sound⟩

/-- Adds an escaped 16-bit unit. -/
def pushUnit (p : Partial) (n : Nat) : Partial :=
  let isLeading := 0xD800 ≤ n ∧ n < 0xDC00
  let isTrailing := 0xDC00 ≤ n ∧ n < 0xE000
  match p.leading with
  | some h =>
    if isTrailing then p.pushCode (0x10000 + (h - 0xD800) * 0x400 + (n - 0xDC00))
    else { p with leading := none, sound := false }
  | none =>
    if isLeading then { p with leading := some n }
    else if isTrailing then { p with sound := false }
    else p.pushCode n

/-- The token of a finished text. -/
def token (p : Partial) : Token :=
  if p.sound && p.leading.isNone then
    .text (String.fromUTF8? (ByteArray.mk p.bytes.reverse.toArray))
  else .text none

end Partial

/-- Where the machine stands between two bytes. -/
inductive Mode where
  | idle
  /-- inside a word or numeral, its characters in reverse -/
  | run (chars : List Char)
  | text (p : Partial)
  /-- after a backslash -/
  | escape (p : Partial)
  /-- inside `\u`, with the digits left and their value so far -/
  | unit (p : Partial) (left : Nat) (value : Nat)

/-- The tokens so far, the last one first, and the mode. -/
structure Scan where
  out : List Token
  mode : Mode

/-- Does the byte belong to words and numerals? -/
def isRunByte (b : UInt8) : Bool :=
  let c := Char.ofNat b.toNat
  c.isAlphanum || c == '+' || c == '-' || c == '.'

/-- The character that a one-letter escape stands for. -/
def escaped? (b : UInt8) : Option UInt8 :=
  match Char.ofNat b.toNat with
  | '"' => some 0x22
  | '\\' => some 0x5C
  | '/' => some 0x2F
  | 'b' => some 0x08
  | 'f' => some 0x0C
  | 'n' => some 0x0A
  | 'r' => some 0x0D
  | 't' => some 0x09
  | _ => none

/-- The value of a hexadecimal digit. -/
def hexValue? (b : UInt8) : Option Nat :=
  let n := b.toNat
  if 48 ≤ n ∧ n ≤ 57 then some (n - 48)
  else if 97 ≤ n ∧ n ≤ 102 then some (n - 87)
  else if 65 ≤ n ∧ n ≤ 70 then some (n - 55)
  else none

namespace Scan

/-- Reads a byte that starts a token or stands between tokens. -/
def begin (out : List Token) (b : UInt8) : Option Scan :=
  match Char.ofNat b.toNat with
  | ' ' => some ⟨out, .idle⟩
  | '\t' => some ⟨out, .idle⟩
  | '\n' => some ⟨out, .idle⟩
  | '\r' => some ⟨out, .idle⟩
  | '[' => some ⟨.openArray :: out, .idle⟩
  | ']' => some ⟨.closeArray :: out, .idle⟩
  | '{' => some ⟨.openObject :: out, .idle⟩
  | '}' => some ⟨.closeObject :: out, .idle⟩
  | ',' => some ⟨.comma :: out, .idle⟩
  | ':' => some ⟨.colon :: out, .idle⟩
  | '"' => some ⟨out, .text .start⟩
  | c => if isRunByte b then some ⟨out, .run [c]⟩ else none

/-- Reads one byte. -/
def step (s : Scan) (b : UInt8) : Option Scan :=
  match s.mode with
  | .idle => begin s.out b
  | .run chars =>
    if isRunByte b then some ⟨s.out, .run (Char.ofNat b.toNat :: chars)⟩
    else (Token.ofRun? chars.reverse).bind fun t => begin (t :: s.out) b
  | .text p =>
    if b = 0x22 then some ⟨p.token :: s.out, .idle⟩
    else if b = 0x5C then some ⟨s.out, .escape p⟩
    else if b < 0x20 then none
    else some ⟨s.out, .text (p.push b)⟩
  | .escape p =>
    if b = 0x75 then some ⟨s.out, .unit p 4 0⟩
    else (escaped? b).map fun e => ⟨s.out, .text (p.push e)⟩
  | .unit p left value =>
    (hexValue? b).map fun d =>
      let value := value * 16 + d
      if left ≤ 1 then ⟨s.out, .text (p.pushUnit value)⟩
      else ⟨s.out, .unit p (left - 1) value⟩

/-- The tokens at the end of the input, unless it ends inside a text. -/
def finish (s : Scan) : Option (List Token) :=
  match s.mode with
  | .idle => some s.out.reverse
  | .run chars => (Token.ofRun? chars.reverse).map fun t => (t :: s.out).reverse
  | _ => none

end Scan

/-- The tokens of a JSON text. -/
def tokens (bytes : List UInt8) : Option (List Token) :=
  (bytes.foldlM Scan.step ⟨[], .idle⟩).bind Scan.finish

end NodeKeeper.Json
