/-
# The commands of the container engine

One command for each thing the node asks of the engine's program.
-/
import NodeKeeper.Docker.Command

namespace NodeKeeper.Docker

/-- Asks an inspection for the id alone. -/
def idFormat : String := "\x7b\x7b.Id\x7d\x7d"

def command (program : String) (args : List String) : Command := ⟨program, args, []⟩

def imageInspect (program image : String) : Command :=
  command program ["image", "inspect", "--format", idFormat, image]

def imagePull (program image : String) : Command :=
  command program ["pull", "--quiet", image]

def networkCreate (program name : String) : Command :=
  command program ["network", "create", "--driver", "bridge", name]

def networkInspect (program name : String) : Command :=
  command program ["network", "inspect", "--format", idFormat, name]

def networkConnect (program network container : String) : Command :=
  command program ["network", "connect", network, container]

def stop (program container : String) : Command := command program ["stop", container]

/-- A flag with its value, if there is one. -/
def flag (name : String) : Option String → List String
  | none => []
  | some s => [name, s]

/-- The variables of a container. -/
def envFlags (env : Dictionary String) : List String :=
  env.entries.flatMap fun (k, v) => ["--env", k ++ "=" ++ v]

/-- Runs a container in the background.  It removes itself when it ends. -/
def run (program : String) (spec : ContainerSpec) : Command :=
  command program <|
    ["run", "--detach", "--rm", "--name", spec.name, "--network", spec.network,
     "--log-driver", "json-file",
     "--log-opt", "max-size=" ++ spec.log.maxSize,
     "--log-opt", "max-file=" ++ toString spec.log.maxFiles.toNat] ++
    flag "--cpu-quota" (spec.limits.cpuQuota.map toString) ++
    flag "--memory" (spec.limits.memoryBytes.map fun n => toString n ++ "b") ++
    envFlags spec.env ++ [spec.image]

end NodeKeeper.Docker
