/-
# Quoted texts of a settings file

A text stands in double quotes, with escapes, or in single quotes, without.
Three quotes enclose a text of several lines; a line break right after them is
not part of it, and a backslash at the end of a line joins the next one.
-/
import NodeKeeper.Toml.Reader

namespace NodeKeeper.Toml

open Text

/-- A control character that no line may contain. -/
def isForbidden (c : Char) : Bool := (c.toNat < 0x20 && c != '\t') || c.toNat = 0x7F

/-- The character with a code point in hexadecimal digits. -/
def charOfHex? (ds : List Char) : Option Char := do
  let n ← ds.foldlM (fun n c => (digitValue? 16 c).map (n * 16 + ·)) 0
  if n < 0xD800 ∨ (0xE000 ≤ n ∧ n < 0x110000) then pure (Char.ofNat n) else none

/-- The character that a one-letter escape stands for. -/
def escapedChar? : Char → Option Char
  | 'b' => some '\x08'
  | 't' => some '\t'
  | 'n' => some '\n'
  | 'f' => some '\x0c'
  | 'r' => some '\r'
  | 'e' => some '\x1b'
  | '"' => some '"'
  | '\\' => some '\\'
  | _ => none

/-- The rest of a text in double quotes; `out` is what was read, reversed. -/
def basicBody (out : List Char) : List Char → Option (List Char × List Char)
  | [] => none
  | '"' :: cs => some (out.reverse, cs)
  | '\\' :: 'x' :: a :: b :: cs => do
    basicBody ((← charOfHex? [a, b]) :: out) cs
  | '\\' :: 'u' :: a :: b :: c :: d :: cs => do
    basicBody ((← charOfHex? [a, b, c, d]) :: out) cs
  | '\\' :: 'U' :: a :: b :: c :: d :: e :: f :: g :: h :: cs => do
    basicBody ((← charOfHex? [a, b, c, d, e, f, g, h]) :: out) cs
  | '\\' :: c :: cs => do basicBody ((← escapedChar? c) :: out) cs
  | c :: cs => if isForbidden c || c == '\\' then none else basicBody (c :: out) cs

/-- Is a line break being folded? -/
inductive Fold where
  | none
  /-- after the backslash, on the same line -/
  | sameLine
  /-- on a later line -/
  | laterLine
  deriving DecidableEq

/-- The rest of a text in three double quotes.  Up to two quotes may stand
before the closing ones. -/
def longBasicBody (fold : Fold) (out : List Char) : List Char → Option (List Char × List Char)
  | [] => none
  | c :: cs =>
    if fold ≠ .none ∧ (c = ' ' ∨ c = '\t') then longBasicBody fold out cs
    else if fold ≠ .none ∧ c = '\n' then longBasicBody .laterLine out cs
    else if fold ≠ .none ∧ c = '\r' ∧ cs.head? = some '\n' then longBasicBody fold out cs
    else if fold = .sameLine then none
    else
      match c, cs with
      | '"', '"' :: '"' :: '"' :: '"' :: r => some (('"' :: '"' :: out).reverse, r)
      | '"', '"' :: '"' :: '"' :: r => some (('"' :: out).reverse, r)
      | '"', '"' :: '"' :: r => some (out.reverse, r)
      | '\\', 'x' :: a :: b :: r => do
        longBasicBody .none ((← charOfHex? [a, b]) :: out) r
      | '\\', 'u' :: a :: b :: c :: d :: r => do
        longBasicBody .none ((← charOfHex? [a, b, c, d]) :: out) r
      | '\\', 'U' :: a :: b :: c :: d :: e :: f :: g :: h :: r => do
        longBasicBody .none ((← charOfHex? [a, b, c, d, e, f, g, h]) :: out) r
      | '\\', e :: r =>
        if e = ' ' ∨ e = '\t' then longBasicBody .sameLine out r
        else if e = '\n' then longBasicBody .laterLine out r
        else if e = '\r' ∧ r.head? = some '\n' then longBasicBody .sameLine out r
        else do longBasicBody .none ((← escapedChar? e) :: out) r
      | '\\', [] => Option.none
      | '\n', r => longBasicBody .none ('\n' :: out) r
      | '\r', '\n' :: r => longBasicBody .none ('\n' :: '\r' :: out) r
      | c, r => if isForbidden c then Option.none else longBasicBody .none (c :: out) r

/-- The rest of a text in single quotes. -/
def literalBody (out : List Char) : List Char → Option (List Char × List Char)
  | [] => none
  | '\'' :: cs => some (out.reverse, cs)
  | c :: cs => if isForbidden c then none else literalBody (c :: out) cs

/-- The rest of a text in three single quotes. -/
def longLiteralBody (out : List Char) : List Char → Option (List Char × List Char)
  | [] => none
  | '\'' :: '\'' :: '\'' :: '\'' :: '\'' :: r => some (('\'' :: '\'' :: out).reverse, r)
  | '\'' :: '\'' :: '\'' :: '\'' :: r => some (('\'' :: out).reverse, r)
  | '\'' :: '\'' :: '\'' :: r => some (out.reverse, r)
  | '\n' :: r => longLiteralBody ('\n' :: out) r
  | '\r' :: '\n' :: r => longLiteralBody ('\n' :: '\r' :: out) r
  | c :: r => if isForbidden c then none else longLiteralBody (c :: out) r

/-- Drops a line break at the front. -/
def dropLineBreak : List Char → List Char
  | '\n' :: cs => cs
  | '\r' :: '\n' :: cs => cs
  | cs => cs

/-- A quoted text on one line. -/
def shortText : Reader String := fun cs =>
  match cs with
  | '"' :: r => (basicBody [] r).map fun (s, r) => (String.ofList s, r)
  | '\'' :: r => (literalBody [] r).map fun (s, r) => (String.ofList s, r)
  | _ => none

/-- A quoted text. -/
def quotedText : Reader String := fun cs =>
  match cs with
  | '"' :: '"' :: '"' :: r =>
    (longBasicBody .none [] (dropLineBreak r)).map fun (s, r) => (String.ofList s, r)
  | '\'' :: '\'' :: '\'' :: r =>
    (longLiteralBody [] (dropLineBreak r)).map fun (s, r) => (String.ofList s, r)
  | cs => shortText cs

end NodeKeeper.Toml
