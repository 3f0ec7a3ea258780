/-
# Files of variables

A file of variables has a line `NAME=value` for each.  A name may have `export`
in front.  A value may be quoted: between double quotes a backslash escapes,
between single quotes nothing does.  Outside single quotes `$NAME` and
`${NAME}` stand for the value of a variable.  A quoted value may go over several
lines, and a comment begins with `#` at the start of a line or after a blank.
-/
import NodeKeeper.Text.Blank

namespace NodeKeeper

open Text

/-- Variables and their values, the last set first. -/
abbrev Variables := List (String × String)

namespace EnvFile

/-! ## Lines -/

/-- Where the end of a line may be looked for. -/
inductive LineState where
  /-- a line break ends the line -/
  | complete
  | escape
  | single
  | singleEscape
  | double
  | doubleEscape
  | blank
  | comment
  deriving DecidableEq

/-- Reads a character of a line. -/
def LineState.step (s : LineState) (c : Char) : LineState :=
  match s with
  | .blank =>
    if c = '#' then .comment
    else if c = '\\' then .escape
    else if c = '"' then .double
    else if c = '\'' then .single
    else .complete
  | .escape => .complete
  | .complete =>
    if isBlank c ∧ c ≠ '\n' ∧ c ≠ '\r' then .blank
    else if c = '\\' then .escape
    else if c = '"' then .double
    else if c = '\'' then .single
    else .complete
  | .double => if c = '\\' then .doubleEscape else if c = '"' then .complete else .double
  | .doubleEscape => .double
  | .single => if c = '\\' then .singleEscape else if c = '\'' then .complete else .single
  | .singleEscape => .single
  | .comment => .comment

/-- The characters before a comment, and the state at the end. -/
def scan : LineState → List Char → List Char × LineState
  | s, [] => ([], s)
  | s, c :: cs =>
    match s.step c with
    | .comment => ([], .comment)
    | s => let (front, last) := scan s cs; (c :: front, last)

/-- Drops a line break at the end. -/
def dropLineEnd (cs : List Char) : List Char :=
  match cs.reverse with
  | '\n' :: '\r' :: r => r.reverse
  | '\n' :: r => r.reverse
  | _ => cs

/-- A line as it was read: its text, or not to be read, or unfinished at the end
of the file. -/
inductive Line where
  | text (cs : List Char)
  | unreadable
  | unfinished

/-- Joins the physical lines of a file; each ends with its line break, and one
that is no text ends the file. -/
def joinLines (state : LineState) (held : List Char) : List (Option (List Char)) → List Line
  | [] => if state = .complete then [] else [.unfinished]
  | none :: _ => [.unreadable]
  | some cs :: rest =>
    if (dropBlanks (held ++ cs)).head? = some '#' then
      .text [] :: joinLines .complete [] rest
    else
      match scan state cs with
      | (_, .complete) => .text (dropLineEnd (held ++ cs)) :: joinLines .complete [] rest
      | (front, .comment) => .text (held ++ front) :: joinLines .complete [] rest
      | (_, state) => joinLines state (held ++ cs) rest

/-! ## Values -/

/-- Letters and digits beyond ASCII that may belong to the name of a variable. -/
def letterRanges : List (Nat × Nat) :=
  [(0xAA, 0xAA), (0xB2, 0xB3), (0xB5, 0xB5), (0xB9, 0xBA), (0xBC, 0xBE), (0xC0, 0xD6),
   (0xD8, 0xF6), (0xF8, 0x2C1), (0x370, 0x373), (0x376, 0x377), (0x37B, 0x37D), (0x386, 0x386),
   (0x388, 0x3FF), (0x400, 0x481), (0x48A, 0x52F), (0x531, 0x556), (0x561, 0x587),
   (0x5D0, 0x5EA), (0x620, 0x64A), (0x660, 0x669), (0x671, 0x6D3), (0x904, 0x939),
   (0xE01, 0xE30), (0x10A0, 0x10FF), (0x1100, 0x1248), (0x1E00, 0x1FBC), (0x3041, 0x3096),
   (0x30A1, 0x30FA), (0x3400, 0x4DBF), (0x4E00, 0x9FFF), (0xAC00, 0xD7A3), (0xFF10, 0xFF19),
   (0xFF21, 0xFF3A), (0xFF41, 0xFF5A), (0x20000, 0x2A6DF)]

/-- Does the character continue the name after a dollar sign? -/
def isNameChar (c : Char) : Bool := c.isAlphanum || inRanges letterRanges c.toNat

/-- A name after a dollar sign that is being read. -/
inductive Substitution where
  | none
  /-- after `$` -/
  | plain (name : List Char)
  /-- after `${` -/
  | braced (name : List Char)
  deriving DecidableEq

/-- A value that is being read; names and output are reversed. -/
structure ValueState where
  single : Bool
  double : Bool
  escaped : Bool
  /-- only a comment may follow -/
  ending : Bool
  substitution : Substitution
  out : List Char

namespace ValueState

def start : ValueState := ⟨false, false, false, false, .none, []⟩

def push (s : ValueState) (c : Char) : ValueState := { s with out := c :: s.out }

/-- Puts in the value of the variable with a reversed name. -/
def substitute (lookup : String → String) (s : ValueState) (name : List Char) : ValueState :=
  { s with
    substitution := .none
    out := (lookup (String.ofList name.reverse)).toList.reverse ++ s.out }

/-- Reads one character of a value outside names, blanks and escapes. -/
def read (s : ValueState) (c : Char) : ValueState :=
  if c = '$' then { s with substitution := .plain [] }
  else if s.double then
    if c = '"' then { s with double := false }
    else if c = '\\' then { s with escaped := true }
    else s.push c
  else if c = '\'' then { s with single := true }
  else if c = '"' then { s with double := true }
  else if c = '\\' then { s with escaped := true }
  else if c = ' ' ∨ c = '\t' then { s with ending := true }
  else s.push c

/-- Reads one character while a name is being read. -/
def readName (lookup : String → String) (s : ValueState) (c : Char) : Substitution → ValueState
  | .none => s
  | .plain name =>
    if isNameChar c then { s with substitution := .plain (c :: name) }
    else if c = '{' ∧ name.isEmpty then { s with substitution := .braced [] }
    else
      let s := s.substitute lookup name
      if c = '$' then { s with substitution := .plain [] } else s.push c
  | .braced name =>
    if c = '}' then s.substitute lookup name
    else { s with substitution := .braced (c :: name) }

/-- The value at the end of its line. -/
def finish (lookup : String → String) (s : ValueState) : Option String :=
  let text (s : ValueState) : String := String.ofList s.out.reverse
  if s.single ∨ s.double then none
  else
    match s.substitution with
    | .none => some (text s)
    | .plain name => some (text (s.substitute lookup name))
    | .braced _ => none

end ValueState

/-- The value written by the characters after the equals sign. -/
def value? (lookup : String → String) : ValueState → List Char → Option String
  | s, [] => s.finish lookup
  | s, c :: cs =>
    if s.ending then
      if c = ' ' ∨ c = '\t' then value? lookup s cs
      else if c = '#' then s.finish lookup
      else none
    else if s.escaped then
      let s := { s with escaped := false }
      if c = '\\' ∨ c = '\'' ∨ c = '"' ∨ c = '$' ∨ c = ' ' then value? lookup (s.push c) cs
      else if c = 'n' then value? lookup (s.push '\n') cs
      else none
    else if s.single then
      value? lookup (if c = '\'' then { s with single := false } else s.push c) cs
    else if s.substitution = .none then value? lookup (s.read c) cs
    else value? lookup (s.readName lookup c s.substitution) cs

/-! ## Settings -/

/-- The name at the front of a line, and what follows it. -/
def name? (cs : List Char) : Option (String × List Char) :=
  match cs with
  | c :: _ =>
    if c.isAlpha ∨ c = '_' then
      let inName (c : Char) : Bool := c.isAlphanum || c == '_' || c == '.'
      some (String.ofList (cs.takeWhile inName), dropBlanks (cs.dropWhile inName))
    else none
  | [] => none

/-- What follows the equals sign at the front. -/
def afterEquals? : List Char → Option (List Char)
  | '=' :: cs => some (dropBlanks cs)
  | _ => none

/-- The variable that a line sets: none for a line without one, and nothing at
all for a malformed line. -/
def setting? (lookup : String → String) (cs : List Char) :
    Option (Option (String × String)) := do
  let cs := trimChars cs
  if cs.isEmpty ∨ cs.head? = some '#' then pure none
  else
    let (name, rest) ← name? cs
    let (name, rest) ← match name, afterEquals? rest with
      | _, some rest => some (name, rest)
      | "export", none => do
        let (name, rest) ← name? rest
        pure (name, ← afterEquals? rest)
      | _, none => none
    if rest.isEmpty ∨ rest.head? = some '#' then pure (some (name, ""))
    else pure (some (name, ← value? lookup .start rest))

/-- What became of reading a file of variables. -/
inductive Outcome where
  | loaded
  /-- it could not be read, or not to its end -/
  | unreadable
  | malformed
  deriving DecidableEq, Repr

/-- Carries out lines.  A variable that is set stays as it is; the values that
the file gives are remembered for substitution. -/
def carryOut : List Line → Variables → Variables → Variables × Outcome
  | [], env, _ => (env, .loaded)
  | .unreadable :: _, env, _ => (env, .unreadable)
  | .unfinished :: _, env, _ => (env, .malformed)
  | .text cs :: rest, env, given =>
    let lookup (name : String) : String :=
      ((env.lookup name <|> given.lookup name).getD "")
    match setting? lookup cs with
    | none => (env, .malformed)
    | some none => carryOut rest env given
    | some (some (name, value)) =>
      let env := if (env.lookup name).isSome then env else (name, value) :: env
      carryOut rest env ((name, value) :: given)

/-- The physical lines of a file, with their line breaks. -/
def physicalLines (bytes : List UInt8) : List (Option (List Char)) :=
  go [] bytes
where
  line (rev : List UInt8) : Option (List Char) :=
    (String.fromUTF8? ⟨rev.reverse.toArray⟩).map String.toList
  go (rev : List UInt8) : List UInt8 → List (Option (List Char))
    | [] => if rev.isEmpty then [] else [line rev]
    | b :: bs => if b = 0x0A then line (b :: rev) :: go [] bs else go (b :: rev) bs

/-- Sets the variables of a file that are not set yet. -/
def load (bytes : List UInt8) (env : Variables) : Variables × Outcome :=
  let bytes := match bytes with
    | 0xEF :: 0xBB :: 0xBF :: rest => rest
    | bytes => bytes
  carryOut (joinLines .complete [] (physicalLines bytes)) env []

end EnvFile

end NodeKeeper
