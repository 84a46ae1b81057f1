import TargetConfig.Arch
import TargetConfig.Text.Quoted

/-! # Log records

What the operations on a configuration report while they work. An event is logged in the order in
which it happens; a computation that fails keeps the events before the failure.
-/

namespace TargetConfig

/-- Something worth a log record. -/
inductive Event where
  /-- A backend was found for a triple. -/
  | resolved (triple backend : String) (arch : Arch)
  /-- The features of an architecture were filled in. -/
  | defaultFeatures (arch : Arch) (features : List String)
  /-- The relocation model of an architecture was filled in. -/
  | defaultRelocation (arch : Arch) (model : RelocationModel)
  /-- A feature was set that has no sign. -/
  | unsignedFeature (feature : String)
  /-- A configuration file was found in a directory. -/
  | usingFile (name directory : String)
  deriving DecidableEq, Repr

/-- How much an event matters. -/
inductive Severity where
  | debug
  | warn
  deriving DecidableEq, Repr

namespace Severity

def label : Severity → String
  | debug => "DEBUG"
  | warn => "WARN"

end Severity

namespace Event

/-- A feature without a sign is a warning; everything else is detail. -/
def severity : Event → Severity
  | unsignedFeature _ => .warn
  | _ => .debug

def message : Event → String
  | resolved triple backend arch =>
    "resolved triple '" ++ triple ++ "' to target '" ++ backend ++ "' (arch " ++ arch.name ++ ")"
  | defaultFeatures arch features =>
    "applying " ++ arch.name ++ " default features " ++ Text.quotedList features
  | defaultRelocation arch model =>
    "applying " ++ arch.name ++ " default relocation model " ++ model.label
  | unsignedFeature feature => "target feature '" ++ feature ++ "' has no '+' or '-' prefix"
  | usingFile name directory => "using " ++ name ++ " from " ++ directory

end Event

end TargetConfig
