import TargetConfig.Feature
import TargetConfig.FileTree
import TargetConfig.Config

/-! # Failures of commands

A command fails with a cause, which may be wrapped in what the command was doing. The report of a
failure names the wrapping first and then each cause behind it.
-/

namespace TargetConfig

/-- What a command was doing to a file. -/
inductive Activity where
  | loading
  | reading
  | parsing
  | writing
  deriving DecidableEq, Repr

def Activity.label : Activity → String
  | loading => "loading"
  | reading => "reading"
  | parsing => "parsing"
  | writing => "writing"

/-- Why a command failed. -/
inductive Failure where
  /-- A configuration has an error. -/
  | target (error : ConfigError)
  /-- A file could not be read or written. -/
  | file (error : FileError)
  /-- Feature toggles are malformed. -/
  | features (issues : List FeatureIssue)
  /-- Neither a flag nor a file gives a triple. -/
  | noTriple
  /-- There is no output format of that name. -/
  | unknownFormat (name : String)
  /-- There is something where a new file should go. -/
  | alreadyExists (path : Path)
  /-- Something else failed while a file was worked on. -/
  | during (activity : Activity) (path : Path) (cause : Failure)
  deriving DecidableEq

namespace Failure

/-- The messages of a failure, from the outermost to the cause behind all others. -/
def chain : Failure → List String
  | target (.document reason) => [(ConfigError.document reason).message, reason]
  | target (.unwritable reason) => [(ConfigError.unwritable reason).message, reason]
  | target (.file error) => [(ConfigError.file error).message, error.message]
  | target error => [error.message]
  | file error => [error.message]
  | features issues =>
    ["invalid target features: " ++ "; ".intercalate (issues.map FeatureIssue.message)]
  | noTriple => ["no target triple given; pass --triple or create a bcc.toml"]
  | unknownFormat name => ["unknown format '" ++ name ++ "' (expected text, toml or json)"]
  | alreadyExists path => [path.text ++ " already exists"]
  | during activity path cause => (activity.label ++ " " ++ path.text) :: cause.chain

/-- The report of a failure on one line. -/
def report (failure : Failure) : String := ": ".intercalate failure.chain

end Failure

/-- A computation that may fail, with the events it logs. The events before a failure are kept. -/
structure Attempt (α : Type) where
  result : Except Failure α
  events : List Event

namespace Attempt

variable {α β : Type}

def ok (a : α) : Attempt α := ⟨.ok a, []⟩

def fail (failure : Failure) : Attempt α := ⟨.error failure, []⟩

/-- One computation after another. After a failure the second is not begun. -/
def andThen (first : Attempt α) (second : α → Attempt β) : Attempt β :=
  match first.result with
  | .ok a => ⟨(second a).result, first.events ++ (second a).events⟩
  | .error failure => ⟨.error failure, first.events⟩

instance : Monad Attempt where
  pure := ok
  bind := andThen

/-- A result with the events that were logged. -/
def ofLogged (logged : Logged α) : Attempt α := ⟨.ok logged.value, logged.events⟩

/-- A result without events. -/
def ofExcept (result : Except Failure α) : Attempt α := ⟨result, []⟩

/-- A result about a configuration, without events. -/
def ofTarget (result : Except ConfigError α) : Attempt α := ⟨result.mapError .target, []⟩

end Attempt

end TargetConfig
