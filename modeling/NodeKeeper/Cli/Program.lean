/-
# The program

What the arguments and the configuration lead to, and how the program ends.
-/
import NodeKeeper.Cli.Arguments
import NodeKeeper.Config.Load
import NodeKeeper.Node.Node
import NodeKeeper.Node.Release

namespace NodeKeeper.Cli

open Json

/-- What the program is to do once its configuration has been looked at. -/
inductive Plan where
  | stop (s : Stop)
  | failed (e : ConfigError)
  /-- prints a report and ends -/
  | report (text : String)
  | run (c : Config) (warnings : Warnings)

/-- How the program ends: its exit code, what it has printed, and an error with
what lies behind it. -/
structure ProgramEnd where
  exitCode : Nat
  printed : String
  error : Option (String × Option String)

def Arguments.loadOptions (a : Arguments) : LoadOptions := ⟨a.config, a.envFile⟩

/-- A configuration with its warnings, as a text. -/
def checkReport (c : Config) (warnings : Warnings) : String :=
  (Value.object [("config", c.toJson), ("warnings", warnings.toJson)]).sorted.pretty ++ "\n"

/-- What the program is to do. -/
def plan (words : List String) (env : Variables) : FileDialogue Plan :=
  match Arguments.read words with
  | .error s => pure (.stop s)
  | .ok a => do
    match ← Config.load a.loadOptions env with
    | .error e => pure (.failed e)
    | .ok (c, warnings) =>
      if a.command = some .checkConfig then pure (.report (checkReport c warnings))
      else pure (.run c warnings)

namespace ProgramEnd

def versionText : String := Release.program ++ " " ++ Release.version ++ "\n"

/-- What is printed when help is asked for. -/
def helpText : String :=
  "Runs agent containers on demand and inspects the node's own data pipeline\n\n" ++
  "Usage: " ++ Release.program ++ " [OPTIONS] [COMMAND]\n\n" ++
  "Commands:\n" ++
  "  run           Start the node (default)\n" ++
  "  check-config  Load and validate the configuration, print it as JSON and exit\n" ++
  "  help          Print this message or the help of the given subcommand(s)\n\n" ++
  "Options:\n" ++
  "      --config <PATH>    Path to the TOML configuration file\n" ++
  "      --env-file <PATH>  Path to a .env file loaded before VIGIL_* variables are read\n" ++
  "  -h, --help             Print help\n" ++
  "  -V, --version          Print version\n"

def ofStop (s : Stop) : ProgramEnd :=
  match s with
  | .help => ⟨s.exitCode, helpText, none⟩
  | .version => ⟨s.exitCode, versionText, none⟩
  | _ => ⟨s.exitCode, "", none⟩

/-- A configuration that cannot be used.  What is wrong with a file of variables
is not told. -/
def ofConfigError (e : ConfigError) : ProgramEnd :=
  let cause := match e with
    | .malformedEnvFile => none
    | e => some e.message
  ⟨1, "", some ("failed to load configuration", cause)⟩

def ofNode (e : NodeEnd) : ProgramEnd :=
  match e.result with
  | .ok () => ⟨0, "", none⟩
  | .error e => ⟨1, "", some (e.message, some e.cause)⟩

end ProgramEnd

end NodeKeeper.Cli
