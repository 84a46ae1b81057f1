import TargetConfig.Request
import TargetConfig.Summary

/-! # Commands

Each command works on a file tree and a working directory. Its outcome tells whether it succeeded,
what it printed, what it logged, and the file tree after it. Only `template` ever changes the tree,
and a command that fails prints nothing and changes nothing.
-/

namespace TargetConfig

inductive Command where
  /-- Lists the backends. -/
  | list
  /-- Tells how a triple is classified. -/
  | arch (triple : String)
  /-- Resolves a configuration and shows it. -/
  | resolve (request : Request)
  /-- Writes a first configuration file. -/
  | template (triple : Option String) (output : Option Path)
  /-- Reports on the installation, the nearest configuration file and a triple. -/
  | doctor (triple : Option String)
  deriving DecidableEq

structure Outcome where
  result : Except Failure Unit
  stdout : String
  events : List Event
  tree : FileTree

namespace Command

def version : String := "0.1.0"

/-- The registry that the commands resolve against. -/
def registry : Registry := .full

/-- A text filled up with spaces to a width. -/
def padded (width : Nat) (s : String) : String :=
  s ++ String.ofList (List.replicate (width - s.length) ' ')

def listLines : List String :=
  ["Registered targets:", ""]
    ++ registry.targets.map (fun entry => "  " ++ padded 14 entry.1 ++ " " ++ entry.2)
    ++ ["", "Use 'bcc target arch <triple>' to classify a triple."]

def archLines (triple : String) : List String :=
  let parts := Triple.ofString triple
  [ "Triple:       " ++ triple,
    "Architecture: " ++ parts.arch.name,
    "Pointer:      " ++
      (match parts.arch.pointerWidth with
        | some width => toString width ++ " bits"
        | none => "unknown"),
    "Endianness:   " ++ ((parts.arch.endianness.map Endianness.title).getD "unknown"),
    "Vendor:       " ++ orDash parts.vendor,
    "OS:           " ++ orDash parts.os,
    "Environment:  " ++ ((parts.environment.map orDash).getD "-"),
    "Backend:      " ++
      (match registry.lookup triple with
        | some handle => handle.name ++ " (" ++ handle.description ++ ")"
        | none => "none registered")]

/-- The lines about a triple in `doctor`, with the events of looking its backend up. -/
def tripleLines (triple : String) : Logged (List String) :=
  let found := (Config.new triple).resolve registry.lookup
  let backend :=
    match found.value.1 with
    | .ok handle => handle.name
    | .error error => error.message
  ⟨["  Backend:  " ++ backend]
    ++ (found.value.2.arch.map fun arch => "  Arch:     " ++ arch.name).toList, found.events⟩

/-- The lines about the nearest configuration file in `doctor`. A file that cannot be read is
reported and is no failure. -/
def configLines (tree : FileTree) (cwd : WorkingDirectory) : Logged (List String) :=
  match tree.discover cwd with
  | .ok (some (profile, directory)) =>
    let about := tripleLines profile.triple
    ⟨["  bcc.toml: found at " ++ directory.text, "  Triple:   " ++ profile.triple] ++ about.value,
      about.events⟩
  | .ok none => ⟨["  bcc.toml: not found"], []⟩
  | .error failure => ⟨["  bcc.toml: error: " ++ failure.report], []⟩

/-- The lines about the triple that `doctor` was given. -/
def givenTripleLines : Option String → Logged (List String)
  | none => ⟨[], []⟩
  | some triple =>
    let about := tripleLines triple
    ⟨["", "--- Target: " ++ triple ++ " ---"] ++ about.value, about.events⟩

def doctorLines (tree : FileTree) (cwd : WorkingDirectory) (triple : Option String) :
    Logged (List String) :=
  let config := configLines tree cwd
  let given := givenTripleLines triple
  ⟨[ "=== bcc doctor ===",
      "",
      "bcc version: " ++ version,
      "",
      "--- Backend ---",
      "  LLVM target machines: not compiled (rebuild with --features llvm)",
      "  Registered targets:   " ++ toString registry.targets.length,
      "",
      "--- Configuration ---"] ++ config.value ++ given.value,
    config.events ++ given.events⟩

/-- The triple of a first configuration file if none is given. -/
def defaultTriple : String := "x86_64-unknown-linux-gnu"

/-- Writes a first configuration file, unless there is something in its place. -/
def writeTemplate (tree : FileTree) (cwd : WorkingDirectory) (triple : Option String)
    (output : Option Path) : Except Failure (Path × FileTree) :=
  let path := output.getD (cwd.path.child configFileName)
  if tree.contains cwd.place path then .error (.alreadyExists path)
  else
    match tree.write cwd.place path (Profile.template (triple.getD defaultTriple)) with
    | .ok tree => .ok (path, tree)
    | .error error => .error (.during .writing path (.file error))

/-- The outcome of a command that cannot fail. -/
def printed (tree : FileTree) (lines : List String) (events : List Event) : Outcome :=
  ⟨.ok (), unlines lines, events, tree⟩

def run (tree : FileTree) (cwd : WorkingDirectory) : Command → Outcome
  | list => printed tree listLines []
  | arch triple => printed tree (archLines triple) []
  | doctor triple =>
    let report := doctorLines tree cwd triple
    printed tree report.value report.events
  | resolve request =>
    let attempt := do
      let config ← request.resolve registry.lookup tree cwd
      Attempt.ofExcept (config.render request.format)
    match attempt.result with
    | .ok text => ⟨.ok (), text, attempt.events, tree⟩
    | .error failure => ⟨.error failure, "", attempt.events, tree⟩
  | template triple output =>
    match writeTemplate tree cwd triple output with
    | .ok (path, tree) => printed tree ["Wrote " ++ path.text] []
    | .error failure => ⟨.error failure, "", [], tree⟩

end Command

end TargetConfig
