/-
# Commands

A program with its arguments and extra variables, and what it leaves behind
when it has ended.
-/
import NodeKeeper.Fleet.Runtime
import NodeKeeper.Text.Pieces
import NodeKeeper.Text.Shown
import NodeKeeper.Text.Utf8

namespace NodeKeeper

open Text

structure Command where
  program : String
  args : List String
  env : List (String × String)
  deriving DecidableEq, Repr

/-- The program and its arguments with spaces between them, unquoted. -/
def Command.text (c : Command) : String := c.program ++ " " ++ joined " " c.args

/-- How a process ended: its exit code unless a signal ended it, and what it
wrote. -/
structure ProcessEnd where
  code : Option Int
  stdout : List UInt8
  stderr : List UInt8
  deriving DecidableEq, Repr

/-- What a finished command leaves behind, as text. -/
structure CommandOutput where
  success : Bool
  code : Option Int
  stdout : String
  stderr : String
  deriving DecidableEq, Repr

namespace CommandOutput

def ofEnd (e : ProcessEnd) : CommandOutput :=
  ⟨e.code == some 0, e.code, lossy e.stdout, lossy e.stderr⟩

/-- The output of a command that succeeded, or the error it ended in. -/
def result (c : Command) (o : CommandOutput) : Except RuntimeError CommandOutput :=
  if o.success then .ok o else .error (.commandFailed c.text o.code (trim o.stderr))

/-- Does the error output contain a text, up to the case of its letters? -/
def mentions (o : CommandOutput) (needle : String) : Bool :=
  Text.contains (lower o.stderr) needle

/-- The first line of the output that is not blank, trimmed. -/
def firstLine? (o : CommandOutput) : Option String :=
  (lines o.stdout).findSome? nonBlank?

end CommandOutput

/-- A process that is asked for. -/
structure ProcessRequest where
  command : Command

/-- How the process ended, or why it could not be started. -/
abbrev ProcessRequest.Answer (_ : ProcessRequest) : Type := Except String ProcessEnd

abbrev ProcessDialogue (α : Type) : Type := Dialogue ProcessRequest ProcessRequest.Answer α

/-- Runs a command to its end. -/
def Command.run (c : Command) : ProcessDialogue (Except RuntimeError CommandOutput) := do
  match ← Dialogue.request (ProcessRequest.mk c) with
  | .error reason => pure (.error (.spawn c.program reason))
  | .ok e => pure (.ok (.ofEnd e))

end NodeKeeper
