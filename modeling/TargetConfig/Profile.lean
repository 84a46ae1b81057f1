import TargetConfig.Config
import TargetConfig.Format

/-! # Profiles

A profile is what a configuration file says about a job: the triple and the settings. The backend
and the architecture are not part of it; they are found anew each time. In a profile the features
are a list, in a configuration they are one text, so an entry with a comma in it comes back as
several.

A record of a document is read entry by entry in the order of the document. Unknown keys are passed
over, the first value that does not fit is reported, and only then a missing triple.
-/

namespace TargetConfig

/-- The contents of a configuration file. -/
structure Profile where
  triple : String
  cpu : String := ""
  features : List String := []
  codeModel : CodeModel := .default
  optimizationLevel : OptimizationLevel := .default
  relocationModel : RelocationModel := .default
  targetOptions : TargetOptions := {}
  deriving DecidableEq, Repr

namespace Profile

/-- The configuration that a profile describes, with the warnings about its features. -/
def toConfig (profile : Profile) : Logged Config :=
  { Config.new profile.triple with
    cpu := profile.cpu
    targetOptions := profile.targetOptions
    codeModel := profile.codeModel
    optimizationLevel := profile.optimizationLevel
    relocationModel := profile.relocationModel }.setFeatures profile.features

def ofConfig (config : Config) : Profile where
  triple := config.triple
  cpu := config.cpu
  features := splitFeatures config.featureString
  codeModel := config.codeModel
  optimizationLevel := config.optimizationLevel
  relocationModel := config.relocationModel
  targetOptions := config.targetOptions

end Profile

/-! ## Reading records -/

section Reading

variable {V : Type} [Format V]

namespace TargetOptions

/-- The keys of the options, in order. -/
def keys : List String := [
  "float-abi", "no-frame-pointer-elim", "unsafe-fp-math", "no-infs-fp-math", "no-nans-fp-math",
  "use-init-array", "function-sections", "data-sections", "emulated-tls"]

/-- Sets the option with the given key; an unknown key changes nothing. -/
def set (options : TargetOptions) (key : String) (v : V) : Except Mismatch TargetOptions :=
  match key with
  | "float-abi" => do return { options with floatAbi := ← Format.choice v }
  | "no-frame-pointer-elim" => do return { options with noFramePointerElim := ← Format.truth v }
  | "unsafe-fp-math" => do return { options with unsafeFpMath := ← Format.truth v }
  | "no-infs-fp-math" => do return { options with noInfsFpMath := ← Format.truth v }
  | "no-nans-fp-math" => do return { options with noNansFpMath := ← Format.truth v }
  | "use-init-array" => do return { options with useInitArray := ← Format.truth v }
  | "function-sections" => do return { options with functionSections := ← Format.truth v }
  | "data-sections" => do return { options with dataSections := ← Format.truth v }
  | "emulated-tls" => do return { options with emulatedTls := ← Format.truth v }
  | _ => .ok options

def setAll (options : TargetOptions) (entries : List (String × V)) :
    Except Mismatch TargetOptions :=
  entries.foldlM (fun options entry => options.set entry.1 entry.2) options

/-- Reads options; those that are not mentioned keep their defaults. -/
def read (v : V) : Except Mismatch TargetOptions := do
  match ← Format.expect "struct TargetOptions" Format.fields? v with
  | .entries entries => setAll {} entries
  | .items items =>
    let options ← setAll {} (keys.zip items)
    Format.checkExcess V items.length keys.length
    return options

end TargetOptions

namespace Profile

/-- The keys of a profile, in order. -/
def keys : List String := [
  "triple", "cpu", "features", "code-model", "optimization-level", "relocation-model",
  "target-options"]

/-- Sets the part with the given key; an unknown key changes nothing. -/
def set (profile : Profile) (key : String) (v : V) : Except Mismatch Profile :=
  match key with
  | "triple" => do return { profile with triple := ← Format.text v }
  | "cpu" => do return { profile with cpu := ← Format.text v }
  | "features" => do return { profile with features := ← Format.texts v }
  | "code-model" => do return { profile with codeModel := ← Format.choice v }
  | "optimization-level" => do return { profile with optimizationLevel := ← Format.choice v }
  | "relocation-model" => do return { profile with relocationModel := ← Format.choice v }
  | "target-options" => do return { profile with targetOptions := ← TargetOptions.read v }
  | _ => .ok profile

def setAll (profile : Profile) (entries : List (String × V)) : Except Mismatch Profile :=
  entries.foldlM (fun profile entry => profile.set entry.1 entry.2) profile

def ofEntries (entries : List (String × V)) : Except Mismatch Profile := do
  let profile ← setAll { triple := "" } entries
  if (entries.lookup "triple").isSome then return profile else .error (.missingKey "triple")

def read (v : V) : Except Mismatch Profile := do
  match ← Format.expect "struct ConfigFile" Format.fields? v with
  | .entries entries => ofEntries entries
  | .items [] => .error (.wrongLength 0 "struct ConfigFile with 7 elements")
  | .items items =>
    let profile ← ofEntries (keys.zip items)
    Format.checkExcess V items.length keys.length
    return profile

end Profile

end Reading

end TargetConfig
