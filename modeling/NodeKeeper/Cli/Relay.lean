/-
# The relay

A running node talks to whoever started it in lines of JSON.  Each command it
wants run is a line with the program and its arguments, and is answered by a
line that tells how the process ended or why it could not be started.  Once the
node is up every further line is a message: its subject and its payload.
-/
import NodeKeeper.Docker.Engine
import NodeKeeper.Json.Write

namespace NodeKeeper.Relay

open Json

/-- The line for a command. -/
def commandLine (r : ProcessRequest) : String :=
  (Value.array ((r.command.program :: r.command.args).map .text)).compact

/-- How a process ended, from a line. -/
def endDecoder : Decoder (Except String ProcessEnd) := fun t => do
  match ← Decode.fields ["code", "stdout", "stderr", "error"] t with
  | [code, stdout, stderr, error] =>
    match ← Decode.defaulted none (Decode.option Decode.text) error with
    | some reason => pure (.error reason)
    | none =>
      pure (.ok {
        code := ← Decode.defaulted none (Decode.option Decode.i64) code
        stdout := utf8 (← Decode.defaulted "" Decode.text stdout)
        stderr := utf8 (← Decode.defaulted "" Decode.text stderr) })
  | _ => none

/-- The answer in a line; one that cannot be read tells of no process. -/
def answer (line : String) : Except String ProcessEnd :=
  (decode endDecoder (utf8 line)).getD (.error "no such answer")

/-- A subject and a payload, from a line. -/
def messageDecoder : Decoder (String × Value) := fun t => do
  match ← Decode.fields ["subject", "payload"] t with
  | [subject, payload] =>
    pure (← Decode.required Decode.text subject,
      ← Decode.required (Tree.value? (depthLimit - 1)) payload)
  | _ => none

/-- The message in a line, with its payload in compact form. -/
def message? (line : String) : Option (String × List UInt8) :=
  (decode messageDecoder (utf8 line)).map fun (subject, payload) => (subject, utf8 payload.compact)

end NodeKeeper.Relay
