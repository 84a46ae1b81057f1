import TargetConfig.Config

/-! # What one operation changes

Equations for the parts of a configuration after one operation. Filling in the defaults touches the
features and the relocation model and nothing else, and each of them only where it was left open.
-/

namespace TargetConfig

namespace Arch

/-- The preferred features as one text, which is empty except for the ARM families. -/
theorem joinFeatures_preferences (arch : Arch) :
    joinFeatures arch.preferences.features = if arch.isArm then "+vfp3,+neon" else "" := by
  cases arch <;> rfl

/-- The relocation model to fill in, which is the default one except for 32-bit MIPS. -/
theorem relocationModel_preferences (arch : Arch) :
    arch.preferences.relocationModel.getD .default =
      if arch = .mips ∨ arch = .mipsel then .static else .default := by
  cases arch <;> rfl

end Arch

namespace Config

@[simp] theorem setFeatures_value (config : Config) (features : List String) :
    (config.setFeatures features).value =
      { config with featureString := joinFeatures features } := rfl

/-- A lookup records the architecture and its own result, whether or not a backend was found. -/
theorem resolve_value (config : Config) (lookup : String → Option Handle) :
    (config.resolve lookup).value.2 =
      { config with arch := some (archOf config.triple), target := lookup config.triple } := by
  unfold resolve
  cases lookup config.triple <;> rfl

theorem resolve_result (config : Config) (lookup : String → Option Handle) :
    (config.resolve lookup).value.1 =
      match lookup config.triple with
      | some handle => .ok handle
      | none => .error (.unsupportedTriple config.triple) := by
  unfold resolve
  cases lookup config.triple <;> rfl

theorem resolve_of_none {config : Config} {lookup : String → Option Handle}
    (hlookup : lookup config.triple = none) :
    config.resolve lookup = ⟨(.error (.unsupportedTriple config.triple),
      { config with arch := some (archOf config.triple), target := none }), []⟩ := by
  rw [resolve, hlookup]

theorem resolve_of_some {config : Config} {lookup : String → Option Handle} {handle : Handle}
    (hlookup : lookup config.triple = some handle) :
    config.resolve lookup = ⟨(.ok handle,
        { config with arch := some (archOf config.triple), target := some handle }),
      [.resolved config.triple handle.name (archOf config.triple)]⟩ := by
  rw [resolve, hlookup]

theorem fillFeatures_value (config : Config) (arch : Arch) (features : List String) :
    (config.fillFeatures arch features).value =
      { config with featureString :=
          if config.featureString = "" then joinFeatures features else config.featureString } := by
  unfold fillFeatures
  by_cases hopen : config.featureString = ""
  · cases features with
    | nil =>
        cases config
        dsimp only at hopen
        subst hopen
        rfl
    | cons feature rest => simp [hopen]
  · simp [hopen]

theorem fillRelocation_value (config : Config) (arch : Arch) (model : Option RelocationModel) :
    (config.fillRelocation arch model).value =
      { config with relocationModel :=
          if config.relocationModel = .default then model.getD .default
          else config.relocationModel } := by
  unfold fillRelocation
  cases model with
  | none =>
      by_cases hopen : config.relocationModel = .default
      · cases config
        dsimp only at hopen
        subst hopen
        rfl
      · simp [hopen]
  | some model =>
      by_cases hopen : config.relocationModel = .default <;> simp [hopen]

/-- Filling in the defaults of a known architecture. A preference that the architecture does not
have leaves the open setting as it is. -/
theorem fillDefaults_value {config : Config} {arch : Arch} (harch : config.arch = some arch) :
    config.fillDefaults.value =
      { config with
        featureString :=
          if config.featureString = "" then joinFeatures arch.preferences.features
          else config.featureString
        relocationModel :=
          if config.relocationModel = .default then
            arch.preferences.relocationModel.getD .default
          else config.relocationModel } := by
  unfold fillDefaults
  simp only [harch, fillRelocation_value, fillFeatures_value]

/-- Before a lookup there is nothing to fill in. -/
theorem fillDefaults_value_of_none {config : Config} (harch : config.arch = none) :
    config.fillDefaults.value = config := by
  unfold fillDefaults
  simp only [harch]

end Config

end TargetConfig
