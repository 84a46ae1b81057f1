import TargetConfig.Backend
import TargetConfig.Event
import TargetConfig.Feature

/-! # Configurations

A configuration describes one compilation job. It is made from a triple, which never fails, and
later resolved: the backend is looked up, which may fail. Settings that were left open are then
filled in with the defaults of the architecture.

Every operation gives the new configuration and the events that it logs.
-/

namespace TargetConfig

/-- What is known about a compilation job. -/
structure Config where
  triple : String
  /-- The processor; the empty text leaves the choice to the backend. -/
  cpu : String := ""
  targetOptions : TargetOptions := {}
  codeModel : CodeModel := .default
  optimizationLevel : OptimizationLevel := .default
  relocationModel : RelocationModel := .default
  /-- The feature toggles, with commas between them. -/
  featureString : String := ""
  /-- The backend, once one has been found. -/
  target : Option Handle := none
  /-- The architecture, once a lookup has been tried. -/
  arch : Option Arch := none
  deriving DecidableEq, Repr

/-- A value with the events that were logged on the way to it. -/
structure Logged (α : Type) where
  value : α
  events : List Event
  deriving DecidableEq, Repr

namespace Config

/-- The configuration with every setting open. -/
def new (triple : String) : Config := { triple }

/-- Whether a backend has been found. -/
def isResolved (config : Config) : Bool := config.target.isSome

/-- Sets the features to a list of toggles. Entries are kept as they are; one without a sign is
only warned about. -/
def setFeatures (config : Config) (features : List String) : Logged Config where
  value := { config with featureString := joinFeatures features }
  events := (features.filter (!hasSign ·)).map .unsignedFeature

/-- Looks the backend up and records the architecture. The architecture is recorded even when there
is no backend, and then an earlier backend is forgotten. -/
def resolve (config : Config) (lookup : String → Option Handle) :
    Logged (Except ConfigError Handle × Config) :=
  let arch := archOf config.triple
  let found := lookup config.triple
  let config := { config with arch := some arch, target := found }
  match found with
  | some handle => ⟨(.ok handle, config), [.resolved config.triple handle.name arch]⟩
  | none => ⟨(.error (.unsupportedTriple config.triple), config), []⟩

/-- Fills in the features of an architecture if none are set. -/
def fillFeatures (config : Config) (arch : Arch) (features : List String) : Logged Config :=
  if config.featureString.isEmpty && !features.isEmpty then
    ⟨{ config with featureString := joinFeatures features }, [.defaultFeatures arch features]⟩
  else ⟨config, []⟩

/-- Fills in the relocation model of an architecture if the default one is set. -/
def fillRelocation (config : Config) (arch : Arch) (model : Option RelocationModel) :
    Logged Config :=
  match model with
  | some model =>
    if config.relocationModel = .default then
      ⟨{ config with relocationModel := model }, [.defaultRelocation arch model]⟩
    else ⟨config, []⟩
  | none => ⟨config, []⟩

/-- Fills in what the architecture prefers, once it is known. -/
def fillDefaults (config : Config) : Logged Config :=
  match config.arch with
  | none => ⟨config, []⟩
  | some arch =>
    let withFeatures := config.fillFeatures arch arch.preferences.features
    let withRelocation := withFeatures.value.fillRelocation arch arch.preferences.relocationModel
    ⟨withRelocation.value, withFeatures.events ++ withRelocation.events⟩

/-! ## Runs -/

inductive Operation where
  | setCpu (cpu : String)
  | setFeatures (features : List String)
  | setCodeModel (model : CodeModel)
  | setOptimizationLevel (level : OptimizationLevel)
  | setRelocationModel (model : RelocationModel)
  /-- Changes the target options in place, given what they are. -/
  | writeTargetOptions (write : TargetOptions → TargetOptions)
  | resolve (lookup : String → Option Handle)
  | fillDefaults

/-- Sets all target options at once. -/
def Operation.setTargetOptions (options : TargetOptions) : Operation :=
  .writeTargetOptions fun _ => options

def step (config : Config) : Operation → Logged Config
  | .setCpu cpu => ⟨{ config with cpu }, []⟩
  | .setFeatures features => config.setFeatures features
  | .setCodeModel codeModel => ⟨{ config with codeModel }, []⟩
  | .setOptimizationLevel optimizationLevel => ⟨{ config with optimizationLevel }, []⟩
  | .setRelocationModel relocationModel => ⟨{ config with relocationModel }, []⟩
  | .writeTargetOptions write =>
    ⟨{ config with targetOptions := write config.targetOptions }, []⟩
  | .resolve lookup =>
    let result := config.resolve lookup
    ⟨result.value.2, result.events⟩
  | .fillDefaults => config.fillDefaults

/-- The configuration after operations in order. -/
def run (config : Config) (operations : List Operation) : Config :=
  operations.foldl (fun config operation => (config.step operation).value) config

end Config

end TargetConfig
