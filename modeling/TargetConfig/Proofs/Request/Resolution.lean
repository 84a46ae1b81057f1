import TargetConfig.Proofs.Config.Steps
import TargetConfig.Proofs.Feature.Flag
import TargetConfig.Proofs.Request.Attempts
import TargetConfig.Request

/-! # When a request is resolved, and to what

A request has an effective profile: each of its settings takes the place of that of the starting
profile. It is resolved when the starting profile is there, every model that it names exists, the
effective features are well-formed and a backend is found for the effective triple. Otherwise the
first of these conditions that fails is reported.
-/

namespace TargetConfig

open Text

/-! ## Settings of a request -/

namespace Setting

/-- A text is no value of a setting. -/
def Unknown (α : Type) [Setting α] (s : String) : Prop := ∀ a : α, ofFlag α s ≠ .ok a

/-- What a flag makes of a setting: the value that it says, or the old value if it is not given. -/
def Chosen {α : Type} [Setting α] (flag : Option String) (old new : α) : Prop :=
  match flag with
  | some s => ofFlag α s = .ok new
  | none => new = old

variable {α : Type} [Setting α]

theorem ofFlag_eq_error_iff (s : String) (error : ConfigError) :
    ofFlag α s = .error error ↔ Unknown α s ∧ error = .invalidValue (title α) s := by
  unfold Unknown ofFlag
  split
  next a _ => simp
  next => simp [eq_comm]

end Setting

namespace Request

open Setting

theorem result_override_eq_ok_iff {α : Type} [Setting α] (flag : Option String) (old new : α) :
    (override flag old).result = .ok new ↔ Chosen flag old new := by
  unfold override Chosen
  cases flag with
  | none => simp [eq_comm]
  | some s => cases hflag : ofFlag α s <;> simp [hflag]

theorem result_override_eq_error_iff {α : Type} [Setting α] (flag : Option String) (old : α)
    (failure : Failure) :
    (override flag old).result = .error failure ↔
      ∃ s, flag = some s ∧ Unknown α s ∧ failure = .target (.invalidValue (title α) s) := by
  unfold override
  cases flag with
  | none => simp
  | some s =>
      cases hflag : ofFlag α s with
      | ok a =>
          have hknown : ¬ Unknown α s := fun hunknown => hunknown a hflag
          simp [hflag, hknown]
      | error error =>
          obtain ⟨hunknown, rfl⟩ := (ofFlag_eq_error_iff s error).mp hflag
          simp [hflag, hunknown, eq_comm]

/-- A profile is the effective one of a request: each setting is that of the request where it has
one and that of the starting profile elsewhere. A feature list is replaced as a whole. -/
structure Effective (request : Request) (base profile : Profile) : Prop where
  triple : profile.triple = request.triple.getD base.triple
  cpu : profile.cpu = request.cpu.getD base.cpu
  features :
    match request.features with
    | some flag => FlagFeatures flag profile.features
    | none => profile.features = base.features
  optimizationLevel : Chosen request.optLevel base.optimizationLevel profile.optimizationLevel
  codeModel : Chosen request.codeModel base.codeModel profile.codeModel
  relocationModel : Chosen request.reloc base.relocationModel profile.relocationModel
  targetOptions : profile.targetOptions = base.targetOptions

/-- A configuration is the one for an effective profile and the backend that was found. The
preferences of the architecture count where the profile leaves a setting open and the request allows
it. -/
structure Resolved (request : Request) (profile : Profile) (handle : Handle) (config : Config) :
    Prop where
  triple : config.triple = profile.triple
  cpu : config.cpu = profile.cpu
  targetOptions : config.targetOptions = profile.targetOptions
  codeModel : config.codeModel = profile.codeModel
  optimizationLevel : config.optimizationLevel = profile.optimizationLevel
  relocationModel : config.relocationModel =
    if request.noArchDefaults = false ∧ profile.relocationModel = .default then
      (archOf profile.triple).preferences.relocationModel.getD .default
    else profile.relocationModel
  featureString : ∃ own preferred, CommaList profile.features own ∧
    CommaList (archOf profile.triple).preferences.features preferred ∧
    config.featureString = if request.noArchDefaults = false ∧ own = "" then preferred else own
  target : config.target = some handle
  arch : config.arch = some (archOf profile.triple)

/-- This configuration, computed. -/
def resolved (request : Request) (profile : Profile) (handle : Handle) : Config where
  triple := profile.triple
  cpu := profile.cpu
  targetOptions := profile.targetOptions
  codeModel := profile.codeModel
  optimizationLevel := profile.optimizationLevel
  relocationModel :=
    if request.noArchDefaults = false ∧ profile.relocationModel = .default then
      (archOf profile.triple).preferences.relocationModel.getD .default
    else profile.relocationModel
  featureString :=
    if request.noArchDefaults = false ∧ joinFeatures profile.features = "" then
      joinFeatures (archOf profile.triple).preferences.features
    else joinFeatures profile.features
  target := some handle
  arch := some (archOf profile.triple)

theorem resolved_iff {request : Request} {profile : Profile} {handle : Handle} {config : Config} :
    Resolved request profile handle config ↔ config = request.resolved profile handle := by
  constructor
  · rintro ⟨htriple, hcpu, hoptions, hcodeModel, hlevel, hrelocation,
      ⟨own, preferred, hown, hpreferred, hfeatures⟩, htarget, harch⟩
    obtain rfl := commaList_iff.mp hown
    obtain rfl := commaList_iff.mp hpreferred
    cases config
    simp_all [resolved]
  · rintro rfl
    exact ⟨rfl, rfl, rfl, rfl, rfl, rfl, ⟨_, _, commaList_iff.mpr rfl, commaList_iff.mpr rfl, rfl⟩,
      rfl, rfl⟩

/-! ## The effective profile -/

/-- The triple of a request is already that of its starting profile. -/
theorem triple_baseProfile {request : Request} {tree : FileTree} {cwd : WorkingDirectory}
    {base : Profile} (hbase : (request.baseProfile tree cwd).result = .ok base) :
    request.triple.getD base.triple = base.triple := by
  unfold baseProfile at hbase
  obtain ⟨start, _, hbase⟩ := Attempt.result_bind_eq_ok_iff.mp hbase
  cases htriple : request.triple with
  | none => rfl
  | some triple =>
      rw [htriple] at hbase
      cases start with
      | none | some =>
          simp only [Attempt.result_ok, Except.ok.injEq] at hbase
          rw [← hbase]
          rfl

theorem features_effective_iff (request : Request) (base profile : Profile) :
    (match request.features with
      | some flag => FlagFeatures flag profile.features
      | none => profile.features = base.features) ↔
      profile.features = (request.features.map featuresOfFlag).getD base.features := by
  cases request.features with
  | none => rfl
  | some flag => exact flagFeatures_iff flag profile.features

theorem result_profile_eq_ok_iff (request : Request) (tree : FileTree) (cwd : WorkingDirectory)
    (profile : Profile) :
    (request.profile tree cwd).result = .ok profile ↔
      ∃ base, (request.baseProfile tree cwd).result = .ok base ∧
        Effective request base profile := by
  simp only [Request.profile, Attempt.result_bind_eq_ok_iff, result_override_eq_ok_iff,
    Attempt.result_pure, Except.ok.injEq]
  constructor
  · rintro ⟨base, hbase, level, hlevel, model, hmodel, reloc, hreloc, rfl⟩
    refine ⟨base, hbase, (triple_baseProfile hbase).symm, rfl, ?_, hlevel, hmodel, hreloc, rfl⟩
    exact (features_effective_iff request base _).mpr rfl
  · rintro ⟨base, hbase, heffective⟩
    refine ⟨base, hbase, _, heffective.optimizationLevel, _, heffective.codeModel, _,
      heffective.relocationModel, ?_⟩
    -- the starting profile already has the triple of the request
    have htriple := heffective.triple.trans (triple_baseProfile hbase)
    have hfeatures := (features_effective_iff request base profile).mp heffective.features
    rw [← htriple, ← heffective.cpu, ← hfeatures, ← heffective.targetOptions]

/-- Why a request has no effective profile: the first of the starting profile and the three models
that is not there. -/
inductive NoProfile (request : Request) (start : Except Failure Profile) : Failure → Prop
  | start {failure : Failure} (hstart : start = .error failure) : NoProfile request start failure
  | optimizationLevel {base : Profile} {value : String} (hstart : start = .ok base)
      (hflag : request.optLevel = some value) (hunknown : Unknown OptimizationLevel value) :
      NoProfile request start (.target (.invalidValue "optimization level" value))
  | codeModel {base : Profile} {level : OptimizationLevel} {value : String}
      (hstart : start = .ok base) (hlevel : Chosen request.optLevel base.optimizationLevel level)
      (hflag : request.codeModel = some value) (hunknown : Unknown CodeModel value) :
      NoProfile request start (.target (.invalidValue "code model" value))
  | relocationModel {base : Profile} {level : OptimizationLevel} {model : CodeModel}
      {value : String} (hstart : start = .ok base)
      (hlevel : Chosen request.optLevel base.optimizationLevel level)
      (hmodel : Chosen request.codeModel base.codeModel model)
      (hflag : request.reloc = some value) (hunknown : Unknown RelocationModel value) :
      NoProfile request start (.target (.invalidValue "relocation model" value))

theorem result_profile_eq_error_iff (request : Request) (tree : FileTree) (cwd : WorkingDirectory)
    (failure : Failure) :
    (request.profile tree cwd).result = .error failure ↔
      NoProfile request (request.baseProfile tree cwd).result failure := by
  simp only [Request.profile, Attempt.result_bind_eq_error_iff, result_override_eq_ok_iff,
    result_override_eq_error_iff, Attempt.result_pure, reduceCtorEq, and_false, exists_false,
    or_false]
  constructor
  · rintro (hstart | ⟨base, hbase, ⟨value, hflag, hunknown, rfl⟩ | ⟨level, hlevel,
      ⟨value, hflag, hunknown, rfl⟩ | ⟨model, hmodel, value, hflag, hunknown, rfl⟩⟩⟩)
    · exact .start hstart
    · exact .optimizationLevel hbase hflag hunknown
    · exact .codeModel hbase hlevel hflag hunknown
    · exact .relocationModel hbase hlevel hmodel hflag hunknown
  · intro hnone
    cases hnone with
    | start hstart => exact Or.inl hstart
    | optimizationLevel hbase hflag hunknown =>
        exact Or.inr ⟨_, hbase, Or.inl ⟨_, hflag, hunknown, rfl⟩⟩
    | codeModel hbase hlevel hflag hunknown =>
        exact Or.inr ⟨_, hbase, Or.inr ⟨_, hlevel, Or.inl ⟨_, hflag, hunknown, rfl⟩⟩⟩
    | relocationModel hbase hlevel hmodel hflag hunknown =>
        exact Or.inr ⟨_, hbase, Or.inr ⟨_, hlevel, Or.inr ⟨_, hmodel, _, hflag, hunknown, rfl⟩⟩⟩

/-! ## The resolved configuration -/

/-- Filling in, on request, what a found architecture prefers. -/
theorem resolved_eq (request : Request) (profile : Profile) (handle : Handle) :
    request.resolved profile handle =
      if request.noArchDefaults then
        { profile.toConfig.value with
          arch := some (archOf profile.triple), target := some handle }
      else
        ({ profile.toConfig.value with
          arch := some (archOf profile.triple), target := some handle }).fillDefaults.value := by
  unfold resolved
  cases request.noArchDefaults with
  | true => simp [Profile.toConfig, Config.new]
  | false =>
      rw [Config.fillDefaults_value rfl]
      by_cases hfeatures : joinFeatures profile.features = "" <;>
        by_cases hrelocation : profile.relocationModel = .default <;>
          simp [Profile.toConfig, Config.new, hfeatures, hrelocation]

/-- What becomes of an effective profile. From here on, only its features and the lookup of its
triple can fail. -/
def settle (request : Request) (lookup : String → Option Handle) (profile : Profile) :
    Except Failure Config :=
  if featureIssues profile.features = [] then
    match lookup profile.triple with
    | some handle => .ok (request.resolved profile handle)
    | none => .error (.target (.unsupportedTriple profile.triple))
  else .error (.features (featureIssues profile.features))

theorem settle_eq_ok_iff (request : Request) (lookup : String → Option Handle) (profile : Profile)
    (config : Config) :
    request.settle lookup profile = .ok config ↔
      (∀ feature ∈ profile.features, IsToggle feature) ∧
        ∃ handle, lookup profile.triple = some handle ∧
          config = request.resolved profile handle := by
  rw [← featureIssues_eq_nil_iff]
  unfold settle
  by_cases hissues : featureIssues profile.features = []
  · cases hlookup : lookup profile.triple with
    | none => simp [hissues]
    | some handle => simp [hissues, eq_comm]
  · simp [hissues]

theorem settle_eq_error_iff (request : Request) (lookup : String → Option Handle)
    (profile : Profile) (failure : Failure) :
    request.settle lookup profile = .error failure ↔
      ((∃ feature ∈ profile.features, ¬ IsToggle feature) ∧
          failure = .features (featureIssues profile.features)) ∨
        ((∀ feature ∈ profile.features, IsToggle feature) ∧ lookup profile.triple = none ∧
          failure = .target (.unsupportedTriple profile.triple)) := by
  rw [← featureIssues_eq_nil_iff, ← featureIssues_ne_nil_iff]
  unfold settle
  by_cases hissues : featureIssues profile.features = []
  · cases hlookup : lookup profile.triple with
    | none => simp [hissues, eq_comm]
    | some handle => simp [hissues]
  · simp [hissues, eq_comm]

theorem result_resolve (request : Request) (lookup : String → Option Handle) (tree : FileTree)
    (cwd : WorkingDirectory) :
    (request.resolve lookup tree cwd).result =
      (request.profile tree cwd).result.bind (request.settle lookup) := by
  unfold resolve
  rw [Attempt.result_bind]
  -- both sides go on from the effective profile, if there is one
  congr 1
  funext profile
  rw [Attempt.result_bind, checkFeatures, settle]
  cases hissues : featureIssues profile.features with
  | cons issue issues => rfl
  | nil =>
      have htriple : profile.toConfig.value.triple = profile.triple := rfl
      simp only [if_true, Attempt.result_ok, Except.bind, Attempt.result_bind,
        Attempt.result_ofLogged, Attempt.result_ofTarget, Config.resolve_result,
        Config.resolve_value, htriple]
      cases hlookup : lookup profile.triple with
      | none => rfl
      | some handle =>
          simp only [Attempt.mapError_ok, resolved_eq]
          cases request.noArchDefaults <;> rfl

/-- What happens after the effective profile depends on nothing else in a request but whether the
preferences of the architecture count. -/
theorem resolve_congr {first second : Request} {lookup : String → Option Handle}
    {tree elsewhere : FileTree} {cwd place : WorkingDirectory}
    (hprofile : first.profile tree cwd = second.profile elsewhere place)
    (hdefaults : first.noArchDefaults = second.noArchDefaults) :
    first.resolve lookup tree cwd = second.resolve lookup elsewhere place := by
  unfold resolve
  rw [hprofile, hdefaults]

theorem resolve_eq_ok_iff (request : Request) (lookup : String → Option Handle) (tree : FileTree)
    (cwd : WorkingDirectory) (config : Config) :
    (request.resolve lookup tree cwd).result = .ok config ↔
      ∃ base profile handle, (request.baseProfile tree cwd).result = .ok base ∧
        Effective request base profile ∧ (∀ feature ∈ profile.features, IsToggle feature) ∧
        lookup profile.triple = some handle ∧ config = request.resolved profile handle := by
  rw [result_resolve, Attempt.bind_eq_ok_iff]
  simp only [result_profile_eq_ok_iff, settle_eq_ok_iff]
  constructor
  · rintro ⟨profile, ⟨base, hbase, heffective⟩, htoggles, handle, hlookup, hconfig⟩
    exact ⟨base, profile, handle, hbase, heffective, htoggles, hlookup, hconfig⟩
  · rintro ⟨base, profile, handle, hbase, heffective, htoggles, hlookup, hconfig⟩
    exact ⟨profile, ⟨base, hbase, heffective⟩, htoggles, handle, hlookup, hconfig⟩

/-- Why a request is refused: it has no effective profile, or else the first of the features and
the lookup that fails. -/
inductive Refused (request : Request) (lookup : String → Option Handle)
    (start : Except Failure Profile) : Failure → Prop
  | profile {failure : Failure} (hnone : NoProfile request start failure) :
      Refused request lookup start failure
  | features {base profile : Profile} (hstart : start = .ok base)
      (heffective : Effective request base profile)
      (hmalformed : ∃ feature ∈ profile.features, ¬ IsToggle feature) :
      Refused request lookup start (.features (featureIssues profile.features))
  | triple {base profile : Profile} (hstart : start = .ok base)
      (heffective : Effective request base profile)
      (htoggles : ∀ feature ∈ profile.features, IsToggle feature)
      (hlookup : lookup profile.triple = none) :
      Refused request lookup start (.target (.unsupportedTriple profile.triple))

theorem resolve_eq_error_iff (request : Request) (lookup : String → Option Handle)
    (tree : FileTree) (cwd : WorkingDirectory) (failure : Failure) :
    (request.resolve lookup tree cwd).result = .error failure ↔
      Refused request lookup (request.baseProfile tree cwd).result failure := by
  rw [result_resolve, Attempt.bind_eq_error_iff]
  simp only [result_profile_eq_ok_iff, result_profile_eq_error_iff, settle_eq_error_iff]
  constructor
  · rintro (hnone | ⟨profile, ⟨base, hbase, heffective⟩,
      ⟨hmalformed, rfl⟩ | ⟨htoggles, hlookup, rfl⟩⟩)
    · exact .profile hnone
    · exact .features hbase heffective hmalformed
    · exact .triple hbase heffective htoggles hlookup
  · intro hrefused
    cases hrefused with
    | profile hnone => exact Or.inl hnone
    | features hbase heffective hmalformed =>
        exact Or.inr ⟨_, ⟨_, hbase, heffective⟩, Or.inl ⟨hmalformed, rfl⟩⟩
    | triple hbase heffective htoggles hlookup =>
        exact Or.inr ⟨_, ⟨_, hbase, heffective⟩, Or.inr ⟨htoggles, hlookup, rfl⟩⟩

/-- The exact result of a request. It is resolved just when its starting profile is there, every
model that it names exists, the effective features are well-formed and a backend is found for the
effective triple, and then the effective profile decides every part of the configuration. Of several
reasons to refuse it the first in this order is given. -/
theorem resolve_result_iff (request : Request) (lookup : String → Option Handle) (tree : FileTree)
    (cwd : WorkingDirectory) :
    (∀ config, (request.resolve lookup tree cwd).result = .ok config ↔
      ∃ base profile handle, (request.baseProfile tree cwd).result = .ok base ∧
        Effective request base profile ∧ (∀ feature ∈ profile.features, IsToggle feature) ∧
        lookup profile.triple = some handle ∧ Resolved request profile handle config) ∧
    (∀ failure, (request.resolve lookup tree cwd).result = .error failure ↔
      Refused request lookup (request.baseProfile tree cwd).result failure) := by
  simp only [resolved_iff]
  exact ⟨resolve_eq_ok_iff request lookup tree cwd, resolve_eq_error_iff request lookup tree cwd⟩

end Request

end TargetConfig
