/-
# Rehearsals of commands

Processes that play a script: each one that is started ends as the next entry
says, and beyond the script it ends in success without output.
-/
import NodeKeeper.Docker.Engine

namespace NodeKeeper

structure RehearsedProcesses where
  /-- the programs that exist -/
  programs : List String
  script : List ProcessEnd
  /-- the commands that were run, the last first -/
  ran : List Command

namespace RehearsedProcesses

/-- No program takes a text with a zero character in it. -/
def hasZero (c : Command) : Bool :=
  let zero (s : String) : Bool := s.toList.contains '\x00'
  zero c.program || c.args.any zero || c.env.any fun (k, v) => zero k || zero v

def respond (r : ProcessRequest) (w : RehearsedProcesses) :
    r.Answer × RehearsedProcesses :=
  let c := r.command
  if hasZero c then (.error "nul byte found in provided data", w)
  else if ¬ w.programs.contains c.program then
    (.error "No such file or directory (os error 2)", w)
  else
    match w.script with
    | e :: rest => (.ok e, { w with script := rest, ran := c :: w.ran })
    | [] => (.ok ⟨some 0, [], []⟩, { w with ran := c :: w.ran })

end RehearsedProcesses

end NodeKeeper
