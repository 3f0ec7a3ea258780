/-
# The command line

Reads the arguments, the environment and the files of the configuration, and
carries out what they ask for.  A running node is connected to standard input
and output by the relay; it is told to end by the end of the input.  Nothing is
decided here.
-/
import NodeKeeper.Cli.Program
import NodeKeeper.Cli.Relay
import NodeKeeper.Node.Host

open NodeKeeper

namespace CommandLine

/-- What a path leads to. -/
def entry (path : String) : IO FileEntry := do
  match ← (IO.FS.readBinFile path).toBaseIO with
  | .ok bytes => pure (.file bytes.toList)
  | .error (.noFileOrDirectory ..) => pure .absent
  | .error _ => pure .directory

/-- The nearest file of a name, up to a number of directories above. -/
def nearest (name : String) : Nat → IO FileEntry
  | 0 => entry name
  | above + 1 => do
    match ← entry name with
    | .file bytes => pure (.file bytes)
    | _ => nearest ("../" ++ name) above

def files {α : Type} : FileDialogue α → IO α
  | .done a => pure a
  | .ask (.entry path) next => do files (next (← entry path))
  | .ask (.nearest name) next => do files (next (← nearest name 64))

/-- The relay shows no times, so the clock stands still. -/
def answer : (r : HostRequest) → IO r.Answer
  | .process r => do
    let output ← IO.getStdout
    output.putStr (Relay.commandLine r ++ "\n")
    output.flush
    pure (Relay.answer (← (← IO.getStdin).getLine))
  | .publish _ _ => pure ()
  | .setCount _ => pure ()
  | .now => pure (default : Timestamp)
  | .listen _ => pure (.ok () : Except String Unit)

def host {α : Type} : HostDialogue α → IO α
  | .done a => pure a
  | .ask r next => do host (next (← answer r))

def node {α : Type} (program : String) (d : NodeDialogue α) : IO α := host (d.onHost program)

/-- Hands messages to a node until there are no more. -/
partial def serve (program : String) (n : Node) : IO Node := do
  let line ← (← IO.getStdin).getLine
  if line.isEmpty then pure n
  else
    match Relay.message? line with
    | none => serve program n
    | some (subject, payload) =>
      serve program (← node program (n.handle ⟨subject, payload, ← IO.monoNanosNow⟩))

def run (c : Config) : IO NodeEnd := do
  let program := c.fleet.dockerProgram
  match ← node program (Node.start c false) with
  | .error e => pure e
  | .ok n =>
    let n ← serve program n
    node program (Node.stop n.table)
    pure ⟨.ok (), true⟩

/-- The variables of the process. -/
def environment : IO Variables := do
  match ← (IO.FS.readBinFile "/proc/self/environ").toBaseIO with
  | .error _ => pure []
  | .ok bytes =>
    let texts := (Text.pieces (· == '\x00') (Text.lossy bytes.toList).toList)
    pure <| texts.map fun cs =>
      (String.ofList (cs.takeWhile (· != '=')), String.ofList ((cs.dropWhile (· != '=')).drop 1))

def finish (e : Cli.ProgramEnd) : IO UInt32 := do
  IO.print e.printed
  match e.error with
  | none => pure ()
  | some (text, cause) =>
    IO.eprintln ("Error: " ++ text)
    if let some cause := cause then IO.eprintln ("\nCaused by:\n    " ++ cause)
  pure e.exitCode.toUInt32

end CommandLine

def main (words : List String) : IO UInt32 := do
  match ← CommandLine.files (Cli.plan words (← CommandLine.environment)) with
  | .stop s => CommandLine.finish (.ofStop s)
  | .failed e => CommandLine.finish (.ofConfigError e)
  | .report text => CommandLine.finish ⟨0, text, none⟩
  | .run c _ => CommandLine.finish (.ofNode (← CommandLine.run c))
