/-
# Reading a settings file

A settings file is a list of lines: headers, which choose the table that
follows, and settings, each a key with a value.  Values may be nested, up to a
limit, and arrays and inline tables may go over several lines.
-/
import NodeKeeper.Toml.Quoted
import NodeKeeper.Toml.Scalar
import NodeKeeper.Toml.Table

namespace NodeKeeper.Toml

open Reader

def isSpace (c : Char) : Bool := c == ' ' || c == '\t'

def skipSpaces : Reader Unit := do
  let _ ← takeWhile isSpace

/-- A comment up to the end of its line, if there is one. -/
def skipComment : Reader Unit := do
  if (← peek?) = some '#' then
    let cs ← takeWhile fun c => c != '\n' && c != '\r'
    if cs.any isForbidden then fail

/-- Takes a line break; says whether there was one. -/
def acceptLineBreak : Reader Bool := do
  if ← accept ['\n'] then pure true else accept ['\r', '\n']

/-- The end of a line: a comment, and a line break or the end of the file. -/
def endLine : Reader Unit := do
  skipSpaces
  skipComment
  if ← acceptLineBreak then pure ()
  else if (← rest).isEmpty then pure ()
  else fail

/-- Spaces, comments and line breaks between the parts of a value. -/
def skipLines : Nat → Reader Unit
  | 0 => pure ()
  | fuel + 1 => do
    skipSpaces
    skipComment
    if ← acceptLineBreak then skipLines fuel else pure ()

def isBareKeyChar (c : Char) : Bool := c.isAlphanum || c == '_' || c == '-'

/-- One part of a key. -/
def keyPart : Reader String := do
  match ← peek? with
  | some '"' => shortText
  | some '\'' => shortText
  | _ =>
    let cs ← takeWhile isBareKeyChar
    if cs.isEmpty then fail else pure (String.ofList cs)

/-- A key of one or more parts with points between them: the parts before the
last, and the last.  `fuel` bounds the number of parts. -/
def key : Nat → Reader (List String × String)
  | 0 => fail
  | fuel + 1 => do
    let part ← keyPart
    skipSpaces
    if ← accept ['.'] then
      skipSpaces
      let (path, last) ← key fuel
      pure (part :: path, last)
    else pure ([], part)

/-- Does the character end an unquoted word? -/
def endsWord (c : Char) : Bool :=
  [' ', '\t', '\n', '\r', ',', '#', '[', ']', '{', '}', '=', '"', '\''].contains c

/-- An unquoted value.  A date may be followed by one space and a time. -/
def wordValue : Reader Value := do
  let word ← takeWhile (! endsWord ·)
  let time? : Reader (List Char) := do
    match day? word, ← rest with
    | some (_, []), ' ' :: d :: _ =>
      if d.isDigit then
        let _ ← next
        let time ← takeWhile (! endsWord ·)
        pure (' ' :: time)
      else pure []
    | _, _ => pure []
  let time ← time?
  match Value.ofWord? (word ++ time) with
  | some v => pure v
  | none => fail

/-- How deep values may be nested. -/
def depthLimit : Nat := 79

mutual

/-- A value.  `depth` is how much deeper values may be nested, and `fuel` bounds
the number of values and keys. -/
def value (depth : Nat) : Nat → Reader Value
  | 0 => fail
  | fuel + 1 => do
    match ← peek? with
    | some '"' => return .text (← quotedText)
    | some '\'' => return .text (← quotedText)
    | some '[' =>
      if depth = 0 then fail
      else
        expect '['
        return .array (← items (depth - 1) fuel)
    | some '{' =>
      if depth = 0 then fail
      else
        expect '{'
        return .table (Node.finishEntries (← members (depth - 1) fuel []))
    | _ => wordValue

/-- The items of an array up to its closing bracket. -/
def items (depth : Nat) : Nat → Reader (List Value)
  | 0 => fail
  | fuel + 1 => do
    skipLines (fuel + 1)
    if ← accept [']'] then pure []
    else
      let v ← value depth fuel
      skipLines (fuel + 1)
      if ← accept [','] then return v :: (← items depth fuel)
      else
        expect ']'
        pure [v]

/-- The members of an inline table up to its closing brace, after those already
read. -/
def members (depth : Nat) : Nat → Entries → Reader Entries
  | 0, _ => fail
  | fuel + 1, done => do
    skipLines (fuel + 1)
    if ← accept ['\x7d'] then pure done
    else
      let (path, last) ← key (fuel + 1)
      expect '='
      skipSpaces
      let v ← value depth fuel
      match Entries.put v last path done with
      | none => fail
      | some done =>
        skipLines (fuel + 1)
        if ← accept [','] then members depth fuel done
        else
          expect '\x7d'
          pure done

end

/-- A file as far as it has been read: its tables, and the path of the header
that was read last. -/
structure Document where
  entries : Entries
  current : List String

namespace Document

def empty : Document := ⟨[], []⟩

/-- A header; `list` says that it adds to a list of tables. -/
def openHeader (d : Document) (list : Bool) (path : List String) (last : String) :
    Option Document := do
  let change := if list then Entries.addTable last else Entries.openTable last
  pure ⟨← Entries.within change path d.entries, path ++ [last]⟩

/-- A setting in the current table. -/
def put (d : Document) (path : List String) (last : String) (v : Value) : Option Document := do
  pure { d with entries := ← Entries.within (Entries.put v last path) d.current d.entries }

/-- Reads one line, or several if a value goes over them. -/
def line (fuel : Nat) (d : Document) : Reader Document := do
  skipSpaces
  match ← peek? with
  | none => pure d
  | some '#' => endLine; pure d
  | some '\n' => endLine; pure d
  | some '\r' => endLine; pure d
  | some '[' =>
    expect '['
    let list ← accept ['[']
    skipSpaces
    let (path, last) ← key fuel
    expect ']'
    if list then expect ']'
    endLine
    match d.openHeader list path last with
    | some d => pure d
    | none => fail
  | some _ =>
    let (path, last) ← key fuel
    expect '='
    skipSpaces
    let v ← value depthLimit fuel
    endLine
    match d.put path last v with
    | some d => pure d
    | none => fail

/-- Reads lines until none is left. -/
def lines (size : Nat) : Nat → Document → Reader Document
  | 0, _ => fail
  | fuel + 1, d => do
    if (← rest).isEmpty then pure d
    else
      let d ← line size d
      lines size fuel d

/-- The table of a settings file. -/
def read? (s : String) : Option (List (String × Value)) :=
  let cs := match s.toList with
    | '\uFEFF' :: cs => cs
    | cs => cs
  let size := 2 * cs.length + 4
  (Reader.all? (lines size size .empty) cs).map fun d => Node.finishEntries d.entries

end Document

end NodeKeeper.Toml
