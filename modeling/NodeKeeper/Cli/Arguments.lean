/-
# The arguments of the command line

`[OPTIONS] [COMMAND]`, where the options may stand before and after the command.
An option that stands on both sides means what it means after the command, and
on one side it may stand only once.

The value of an option is not looked at before something else calls for it: the
next option that is known, or the end of the arguments on its side.  An argument
that nobody knows is therefore reported before a fault in the value in front of
it.
-/
namespace NodeKeeper.Cli

/-- What the program is to do. -/
inductive Command where
  | run
  | checkConfig
  deriving DecidableEq, Repr

/-- What is asked for on the command line. -/
structure Arguments where
  command : Option Command
  config : Option String
  envFile : Option String
  deriving DecidableEq, Repr

/-- Why the arguments yield nothing to do. -/
inductive Stop where
  /-- help is asked for -/
  | help
  /-- the version is asked for -/
  | version
  | unknownCommand
  | unknownArgument
  /-- an option has no value or an empty one -/
  | invalidValue
  /-- an option stands twice on one side of the command -/
  | repeatedOption
  /-- an option that has no value is given one -/
  | unneededValue
  deriving DecidableEq, Repr

/-- The exit code of a program that stops there. -/
def Stop.exitCode : Stop → Nat
  | .help => 0
  | .version => 0
  | _ => 2

def Command.word : Command → String
  | .run => "run"
  | .checkConfig => "check-config"

def Command.ofWord? (s : String) : Option Command :=
  [Command.run, .checkConfig].find? (·.word == s)

/-- The word for help on a command. -/
def helpWord : String := "help"

/-- Does the word stand for a command or for help? -/
def isCommandWord (s : String) : Bool := s == helpWord || (Command.ofWord? s).isSome

/-- The options that name a file. -/
inductive FileOption where
  | config
  | envFile
  deriving DecidableEq, Repr

def FileOption.ofName? : List Char → Option FileOption
  | cs => if cs = "config".toList then some .config
    else if cs = "env-file".toList then some .envFile
    else none

/-- The options seen on one side of the command. -/
structure Side where
  config : Option String
  envFile : Option String
  /-- an option whose value is not yet looked at, or still to come -/
  pending : Option (FileOption × Option String)

namespace Side

def start : Side := ⟨none, none, none⟩

def value? (s : Side) : FileOption → Option String
  | .config => s.config
  | .envFile => s.envFile

/-- Gives an option its value. -/
def set (s : Side) (o : FileOption) (v : String) : Except Stop Side :=
  if (s.value? o).isSome then .error .repeatedOption
  else if v.isEmpty then .error .invalidValue
  else
    match o with
    | .config => .ok { s with config := some v }
    | .envFile => .ok { s with envFile := some v }

/-- Looks at the value of the pending option. -/
def settle (s : Side) : Except Stop Side :=
  match s.pending with
  | none => .ok s
  | some (_, none) => .error .invalidValue
  | some (o, some v) => { s with pending := none }.set o v

/-- Is the value of an option still to come? -/
def awaits (s : Side) : Option FileOption :=
  match s.pending with
  | some (o, none) => some o
  | _ => none

end Side

/-- Cuts a long option at its first equals sign. -/
def cutOption (cs : List Char) : List Char × Option String :=
  match cs.dropWhile (· != '=') with
  | [] => (cs, none)
  | _ :: v => (cs.takeWhile (· != '='), some (String.ofList v))

/-- An option of one side that begins with two hyphens. -/
def readLong (first : Bool) (s : Side) (cs : List Char) : Except Stop Side :=
  let (name, v) := cutOption cs
  let flag (stop : Stop) : Except Stop Side :=
    match v with
    | some _ => .error .unneededValue
    | none => s.settle.bind fun _ => .error stop
  match FileOption.ofName? name with
  | some o =>
    s.settle.bind fun s =>
      match v with
      | some v => s.set o v
      | none => .ok { s with pending := some (o, none) }
  | none =>
    if name = "help".toList then flag .help
    else if first ∧ name = "version".toList then flag .version
    else .error .unknownArgument

/-- Options of one side that begin with one hyphen. -/
def readShort (first : Bool) (s : Side) (c : Char) : Except Stop Side :=
  if c = 'h' then s.settle.bind fun _ => .error .help
  else if first ∧ c = 'V' then s.settle.bind fun _ => .error .version
  else .error .unknownArgument

/-- What help on some words leads to. -/
def helpOn : List String → Stop
  | [] => .help
  | [word] => if isCommandWord word then .help else .unknownCommand
  | _ => .unknownCommand

/-- An argument that is neither an option nor a value nor a command.  `first`
says whether a command could still stand there, `escaped` whether a double
hyphen came before. -/
def stray (first escaped : Bool) (word : String) : Stop :=
  if first ∧ ¬ (escaped ∧ isCommandWord word) then .unknownCommand else .unknownArgument

/-- Reads the arguments on one side of the command; after the command the other
side follows. -/
def readSide (first escaped : Bool) (s : Side) :
    List String → Except Stop (Side × Option (Command × Side))
  | [] => s.settle.map (·, none)
  | word :: rest =>
    if escaped then .error (stray first true word)
    else if first ∧ s.awaits.isNone ∧ word = helpWord then .error (helpOn rest)
    else
      match (if first ∧ s.awaits.isNone then Command.ofWord? word else none) with
      | some c => do
        let (inner, _) ← readSide false false .start rest
        let outer ← s.settle
        pure (outer, some (c, inner))
      | none =>
        match word.toList, s.awaits with
        | ['-', '-'], _ => readSide first true s rest
        | '-' :: '-' :: cs, _ => do readSide first false (← readLong first s cs) rest
        | '-' :: c :: _, _ => do readSide first false (← readShort first s c) rest
        | _, some o => readSide first false { s with pending := some (o, some word) } rest
        | _, none => .error (stray first false word)

/-- Reads the arguments after the name of the program. -/
def Arguments.read (words : List String) : Except Stop Arguments := do
  let (outer, inner) ← readSide true false .start words
  match inner with
  | none => pure ⟨none, outer.config, outer.envFile⟩
  | some (c, s) => pure ⟨some c, s.config <|> outer.config, s.envFile <|> outer.envFile⟩

end NodeKeeper.Cli
