import TargetConfig.Command

/-! # The command line

`CommandLine.parse` reads the arguments of the program. Options have long names only; a value
follows in the next argument or after an equals sign, and no option may be given twice. A value in
an argument of its own must not start with a hyphen, unless it is just a hyphen or the option says
otherwise. After `--` nothing is an option.

`CommandLine.run` gives the exit status and what goes to the two output streams: 0 on success, 1
with a report of the failure, and 2 if the arguments are not understood.
-/

namespace TargetConfig

namespace CommandLine

/-! ## Options and values -/

/-- An option that a command knows. -/
structure Flag where
  name : String
  /-- Whether a value belongs to it. -/
  takesValue : Bool := true
  /-- Whether the next argument is the value whatever it is. -/
  allowsHyphen : Bool := false
  /-- Whether the value may be the empty text. -/
  allowsEmpty : Bool := true
  deriving DecidableEq, Repr

/-- The options given to a command, with their values, and the other arguments. -/
structure Given where
  options : List (String × String)
  positionals : List String
  deriving DecidableEq, Repr

namespace Given

def value? (given : Given) (name : String) : Option String := given.options.lookup name

def path? (given : Given) (name : String) : Option Path := (given.value? name).map Path.mk

/-- Adds an option, unless it was given before or its value is refused. -/
def addOption (flag : Flag) (value : String) (given : Given) : Option Given :=
  if (given.value? flag.name).isSome || (flag.takesValue && !flag.allowsEmpty && value.isEmpty) then
    none
  else some { given with options := given.options ++ [(flag.name, value)] }

def addPositional (value : String) (given : Given) : Given :=
  { given with positionals := given.positionals ++ [value] }

end Given

/-- Whether an argument is taken for an option rather than for a value. -/
def looksLikeOption (argument : String) : Bool :=
  argument.toList.head? = some '-' && argument ≠ "-"

/-- The name of a long option and the value after its equals sign. -/
def splitOption (argument : String) : Option (String × Option String) :=
  match argument.toList with
  | '-' :: '-' :: rest =>
    let (name, value) := Text.cut '=' rest
    some (String.ofList name, value.map String.ofList)
  | _ => none

def readArguments (flags : List Flag) (given : Given) : List String → Option Given
  | [] => some given
  | "--" :: rest => some (rest.foldl (fun given value => given.addPositional value) given)
  | argument :: rest =>
    if looksLikeOption argument then
      match splitOption argument with
      | none => none
      | some (name, value) =>
        match flags.find? (·.name = name), value, rest with
        | none, _, _ => none
        | some flag, some value, rest =>
          if flag.takesValue then
            (given.addOption flag value).bind fun given => readArguments flags given rest
          else none
        | some flag, none, [] =>
          if flag.takesValue then none else given.addOption flag ""
        | some flag, none, next :: rest' =>
          if !flag.takesValue then
            (given.addOption flag "").bind fun given => readArguments flags given (next :: rest')
          else if looksLikeOption next && !flag.allowsHyphen then none
          else (given.addOption flag next).bind fun given => readArguments flags given rest'
    else readArguments flags (given.addPositional argument) rest

/-- Reads the arguments of a command that takes no others than options. -/
def readOptions (flags : List Flag) (arguments : List String) : Option Given :=
  (readArguments flags ⟨[], []⟩ arguments).filter (·.positionals.isEmpty)

/-! ## Commands -/

def resolveFlags : List Flag := [
  { name := "config", allowsEmpty := false },
  { name := "triple" },
  { name := "cpu" },
  { name := "features", allowsHyphen := true },
  { name := "opt-level" },
  { name := "code-model" },
  { name := "reloc" },
  { name := "no-arch-defaults", takesValue := false },
  { name := "format" }]

/-- The request that the options of `resolve` make. -/
def request (given : Given) : Request where
  config := given.path? "config"
  triple := given.value? "triple"
  cpu := given.value? "cpu"
  features := given.value? "features"
  optLevel := given.value? "opt-level"
  codeModel := given.value? "code-model"
  reloc := given.value? "reloc"
  noArchDefaults := (given.value? "no-arch-defaults").isSome
  format := given.value? "format"

/-- What the arguments ask for. -/
inductive Invocation where
  | version
  | command (command : Command)
  deriving DecidableEq

/-- Reads the name of a command about targets, and its arguments. -/
def parseTarget : List String → Option Command
  | "list" :: rest => (readOptions [] rest).map fun _ => .list
  | "arch" :: rest =>
    match readArguments [] ⟨[], []⟩ rest with
    | some ⟨_, [triple]⟩ => some (.arch triple)
    | _ => none
  | "resolve" :: rest => (readOptions resolveFlags rest).map fun given => .resolve (request given)
  | "template" :: rest =>
    (readOptions [{ name := "triple" }, { name := "output", allowsEmpty := false }] rest).map
      fun given => .template (given.value? "triple") (given.path? "output")
  | _ => none

/-- Reads the arguments of the program. -/
def parse : List String → Option Invocation
  | "--version" :: _ => some .version
  | "target" :: rest => (parseTarget rest).map .command
  | "doctor" :: rest =>
    (readOptions [{ name := "triple" }] rest).map
      fun given => .command (.doctor (given.value? "triple"))
  | argument :: _ => if argument.startsWith "-V" then some .version else none
  | [] => none

/-- The files that the arguments make the program look at from a working directory. -/
def Invocation.paths (cwd : WorkingDirectory) : Invocation → List Path
  | .command (.resolve request) =>
    match request.config, request.triple with
    | some path, _ => [path]
    | none, some _ => []
    | none, none => cwd.path.upward.map (·.child configFileName)
  | .command (.doctor _) => cwd.path.upward.map (·.child configFileName)
  | .command (.template _ output) => [output.getD (cwd.path.child configFileName)]
  | _ => []

/-! ## Running -/

/-- What running the program does. -/
structure Exit where
  status : Nat
  stdout : String
  stderr : String
  tree : FileTree

def Exit.ofOutcome (outcome : Outcome) : Exit :=
  match outcome.result with
  | .ok () => ⟨0, outcome.stdout, "", outcome.tree⟩
  | .error failure =>
    ⟨1, outcome.stdout, "error: " ++ failure.report ++ "\n", outcome.tree⟩

/-- Runs the program. What it says about arguments that it does not understand is left to the
caller. -/
def run (tree : FileTree) (cwd : WorkingDirectory) (arguments : List String) : Exit :=
  match parse arguments with
  | none => ⟨2, "", "", tree⟩
  | some .version => ⟨0, "bcc " ++ Command.version ++ "\n", "", tree⟩
  | some (.command command) => Exit.ofOutcome (command.run tree cwd)

end CommandLine

end TargetConfig
