import TargetConfig.Discovery

/-! # Resolving a configuration

A request names a file, a triple, settings, or none of them. The starting point is the profile of
the named file; or, given a triple and no file, a profile with every setting open; or the profile of
the nearest configuration file. Each setting of the request replaces that of the profile. Then the
features are checked, the backend is looked up, and the defaults of the architecture are filled in
unless the request says otherwise.

Of several errors the first in this order is reported: the file, the optimization level, the code
model, the relocation model, the features, the triple.
-/

namespace TargetConfig

/-- What a resolve command asks for. -/
structure Request where
  config : Option Path := none
  triple : Option String := none
  cpu : Option String := none
  /-- Toggles with commas between them. -/
  features : Option String := none
  optLevel : Option String := none
  codeModel : Option String := none
  reloc : Option String := none
  noArchDefaults : Bool := false
  format : Option String := none
  deriving DecidableEq

namespace Request

/-- The profile to start from, without the triple of the request. -/
def startingProfile (request : Request) (tree : FileTree) (cwd : WorkingDirectory) :
    Attempt (Option Profile) :=
  match request.config, request.triple with
  | some path, _ => .ofExcept ((tree.load cwd path).map some)
  | none, some _ => .ok none
  | none, none => do
    match ← Attempt.ofExcept (tree.discover cwd) with
    | some (profile, directory) => ⟨.ok (some profile), [.usingFile configFileName directory.text]⟩
    | none => .ok none

/-- The profile to start from. The triple of the request replaces that of the file. -/
def baseProfile (request : Request) (tree : FileTree) (cwd : WorkingDirectory) :
    Attempt Profile := do
  match ← request.startingProfile tree cwd, request.triple with
  | some profile, some triple => .ok { profile with triple }
  | some profile, none => .ok profile
  | none, some triple => .ok { Profile.ofConfig (Config.new triple) with triple }
  | none, none => .fail .noTriple

/-- The value of a setting: that of the flag, if it is given and says one. -/
def override {α : Type} [Setting α] (flag : Option String) (old : α) : Attempt α :=
  match flag with
  | some s => .ofTarget (Setting.ofFlag α s)
  | none => .ok old

/-- The profile with the settings of the request. -/
def profile (request : Request) (tree : FileTree) (cwd : WorkingDirectory) : Attempt Profile := do
  let base ← request.baseProfile tree cwd
  let optimizationLevel ← override request.optLevel base.optimizationLevel
  let codeModel ← override request.codeModel base.codeModel
  let relocationModel ← override request.reloc base.relocationModel
  return { base with
    cpu := request.cpu.getD base.cpu
    features := (request.features.map featuresOfFlag).getD base.features
    optimizationLevel
    codeModel
    relocationModel }

/-- Refuses features that are not well-formed toggles. -/
def checkFeatures (features : List String) : Attempt Unit :=
  match featureIssues features with
  | [] => .ok ()
  | issues => .fail (.features issues)

/-- The configuration that the request describes, resolved. -/
def resolve (request : Request) (lookup : String → Option Handle) (tree : FileTree)
    (cwd : WorkingDirectory) : Attempt Config := do
  let profile ← request.profile tree cwd
  checkFeatures profile.features
  let config ← Attempt.ofLogged profile.toConfig
  let (found, config) ← Attempt.ofLogged (config.resolve lookup)
  let _ ← Attempt.ofTarget found
  if request.noArchDefaults then return config
  else Attempt.ofLogged config.fillDefaults

end Request

end TargetConfig
