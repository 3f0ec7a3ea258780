/-
# Loading a configuration

Finds the settings file and the file of variables, and composes what they and
the environment say.  Files are asked for one at a time, so that loading is a
dialogue with whoever has them.
-/
import NodeKeeper.Config.Compose
import NodeKeeper.Config.EnvFile
import NodeKeeper.Dialogue

namespace NodeKeeper

/-- What a path leads to. -/
inductive FileEntry where
  | absent
  | directory
  | file (bytes : List UInt8)
  deriving DecidableEq, Repr

/-- What is asked while a configuration is loaded. -/
inductive FileRequest where
  | entry (path : String)
  /-- the file of that name in the current directory or the nearest one above -/
  | nearest (name : String)

abbrev FileRequest.Answer (_ : FileRequest) : Type := FileEntry

abbrev FileDialogue (α : Type) : Type := Dialogue FileRequest FileRequest.Answer α

/-- Which files to load. -/
structure LoadOptions where
  configPath : Option String
  envFile : Option String
  deriving DecidableEq, Repr

namespace Config

def entry (path : String) : FileDialogue FileEntry := Dialogue.request (FileRequest.entry path)

/-- Where a settings file is looked for when none is named. -/
def usualPaths : List String := ["vigil.toml", "config/vigil.toml"]

/-- The first of several paths that leads anywhere. -/
def firstPresent : List String → FileDialogue (Option (String × FileEntry))
  | [] => pure none
  | path :: rest => do
    match ← entry path with
    | .absent => firstPresent rest
    | found => pure (some (path, found))

/-- The settings in a file that was found. -/
def readLayer (path : String) : FileEntry → Except ConfigError FileLayer
  | .absent => .error (.missingFile path)
  | .directory => .error (.unreadableFile path)
  | .file bytes =>
    match String.fromUTF8? ⟨bytes.toArray⟩ with
    | none => .error (.unreadableFile path)
    | some text =>
      match FileLayer.read? text with
      | none => .error (.malformedFile path)
      | some layer => .ok layer

/-- The layer of the settings file and its path, if there is one.  A file that
is named must be there. -/
def fileLayer (options : LoadOptions) (env : EnvLayer) :
    FileDialogue (Except ConfigError (Option (FileLayer × String))) := do
  match options.configPath <|> env.configPath with
  | some path =>
    let found ← entry path
    pure ((readLayer path found).map fun layer => some (layer, path))
  | none =>
    match ← firstPresent usualPaths with
    | none => pure (.ok none)
    | some (path, found) => pure ((readLayer path found).map fun layer => some (layer, path))

/-- Loads a configuration with a given layer of the environment. -/
def loadWith (options : LoadOptions) (env : EnvLayer) :
    FileDialogue (Except ConfigError (Config × Warnings)) := do
  match ← fileLayer options env with
  | .error e => pure (.error e)
  | .ok none => pure (compose none env none)
  | .ok (some (layer, path)) => pure (compose (some layer) env (some path))

/-- Adds the variables of a file to the environment. -/
def loadVariables (options : LoadOptions) (env : Variables) :
    FileDialogue (Variables × EnvFile.Outcome) := do
  let found ← match options.envFile with
    | some path => entry path
    | none => Dialogue.request (FileRequest.nearest ".env")
  match found with
  | .file bytes => pure (EnvFile.load bytes env)
  | _ => pure (env, .unreadable)

/-- Loads a configuration in the environment of a process. -/
def load (options : LoadOptions) (env : Variables) :
    FileDialogue (Except ConfigError (Config × Warnings)) := do
  let (env, outcome) ← loadVariables options env
  match outcome with
  | .malformed => pure (.error .malformedEnvFile)
  | outcome =>
    let result ← loadWith options (.ofLookup fun name => env.lookup name)
    pure (result.map fun (config, warnings) =>
      ({ config with provenance :=
          { config.provenance with envFileLoaded := outcome == .loaded } }, warnings))

end Config

end NodeKeeper
