import TargetConfig.Proofs.Config.Steps
import TargetConfig.Proofs.Feature.Issues

/-! # What one operation logs

The log of an operation tells what it did. Setting features warns about the entries without a sign,
in their order; a lookup leaves a record if it found a backend; filling in defaults leaves a record
for each of the two settings that it changed. So filling in twice logs nothing the second time.
-/

namespace TargetConfig

/-- A feature that begins with a sign. -/
def Signed (feature : String) : Prop :=
  ∃ sign name, feature.toList = sign :: name ∧ (sign = '+' ∨ sign = '-')

/-- One warning for each feature without a sign, in the order of the features. -/
inductive Warnings : List String → List Event → Prop
  | nil : Warnings [] []
  | signed {feature : String} {features : List String} {events : List Event}
      (hsigned : Signed feature) (hrest : Warnings features events) :
      Warnings (feature :: features) events
  | unsigned {feature : String} {features : List String} {events : List Event}
      (hunsigned : ¬ Signed feature) (hrest : Warnings features events) :
      Warnings (feature :: features) (.unsignedFeature feature :: events)

/-- The record of a lookup, which there is only if a backend was found. -/
inductive TellsLookup (triple : String) : Except ConfigError Handle → List Event → Prop
  | found (handle : Handle) :
      TellsLookup triple (.ok handle) [.resolved triple handle.name (archOf triple)]
  | missing (error : ConfigError) : TellsLookup triple (.error error) []

/-- The record of a change, which there is only if something changed. -/
inductive TellsChange {α : Type} (before after : α) (describes : Event → Prop) :
    List Event → Prop
  | changed {event : Event} (hne : after ≠ before) (hdescribes : describes event) :
      TellsChange before after describes [event]
  | unchanged (heq : after = before) : TellsChange before after describes []

/-- The records of filling in: that of the features first, and that of the relocation model. Each
names the architecture and what was filled in. -/
def TellsFilling (before after : Config) (events : List Event) : Prop :=
  ∃ first second, events = first ++ second ∧
    TellsChange before.featureString after.featureString
      (fun event => ∃ arch features, before.arch = some arch ∧
        event = .defaultFeatures arch features ∧ after.featureString = joinFeatures features)
      first ∧
    TellsChange before.relocationModel after.relocationModel
      (fun event => ∃ arch, before.arch = some arch ∧
        event = .defaultRelocation arch after.relocationModel)
      second

theorem Warnings.unique {features : List String} {events others : List Event}
    (hevents : Warnings features events) (hothers : Warnings features others) :
    events = others := by
  induction hevents generalizing others with
  | nil =>
      cases hothers
      rfl
  | signed hsigned _ ih =>
      cases hothers with
      | signed _ hrest => exact ih hrest
      | unsigned hunsigned _ => exact absurd hsigned hunsigned
  | unsigned hunsigned _ ih =>
      cases hothers with
      | signed hsigned _ => exact absurd hsigned hunsigned
      | unsigned _ hrest => rw [ih hrest]

theorem TellsChange.imp {α : Type} {before after : α} {describes other : Event → Prop}
    {events : List Event} (hevents : TellsChange before after describes events)
    (himp : ∀ event, describes event → other event) :
    TellsChange before after other events := by
  cases hevents with
  | changed hne hdescribes => exact .changed hne (himp _ hdescribes)
  | unchanged heq => exact .unchanged heq

theorem TellsChange.forall_mem {α : Type} {before after : α} {describes P : Event → Prop}
    {events : List Event} (hevents : TellsChange before after describes events)
    (himp : ∀ event, describes event → P event) : ∀ event ∈ events, P event := by
  cases hevents with
  | changed _ hdescribes => exact List.forall_mem_singleton.mpr (himp _ hdescribes)
  | unchanged _ => exact List.forall_mem_nil P

theorem Event.severity_eq_warn_iff (event : Event) :
    event.severity = .warn ↔ ∃ feature, event = .unsignedFeature feature := by
  cases event <;> simp [severity]

/-- Filling in is never warned about. -/
theorem TellsFilling.not_warn {before after : Config} {events : List Event}
    (hevents : TellsFilling before after events) : ∀ event ∈ events, event.severity ≠ .warn := by
  obtain ⟨first, second, happend, hfirst, hsecond⟩ := hevents
  rw [happend, List.forall_mem_append]
  constructor
  · refine TellsChange.forall_mem (P := fun event => event.severity ≠ .warn) hfirst ?_
    intro event hevent
    obtain ⟨arch, features, _, heq, _⟩ := hevent
    simp [heq, Event.severity]
  · refine TellsChange.forall_mem (P := fun event => event.severity ≠ .warn) hsecond ?_
    intro event hevent
    obtain ⟨arch, _, heq⟩ := hevent
    simp [heq, Event.severity]

namespace Arch

/-- Features that an architecture prefers are no list that leaves the features open. -/
theorem joinFeatures_preferences_ne {arch : Arch} (hsome : arch.preferences.features ≠ []) :
    joinFeatures arch.preferences.features ≠ "" := by
  have hopen : arch.preferences.features = [] ∨ joinFeatures arch.preferences.features ≠ "" := by
    cases arch <;> decide
  exact hopen.resolve_left hsome

/-- A relocation model that an architecture prefers is not the open one. -/
theorem preferences_relocationModel_ne (arch : Arch) :
    arch.preferences.relocationModel ≠ some .default := by
  cases arch <;> decide

end Arch

namespace Config

/-! ## Features and lookups -/

theorem warnings_setFeatures (config : Config) (features : List String) :
    Warnings features (config.setFeatures features).events := by
  change Warnings features ((features.filter (!hasSign ·)).map .unsignedFeature)
  induction features with
  | nil => exact .nil
  | cons feature features ih =>
      cases hsign : hasSign feature with
      | true =>
          rw [List.filter_cons_of_neg (by simp [hsign])]
          exact .signed ((hasSign_iff feature).mp hsign) ih
      | false =>
          rw [List.filter_cons_of_pos (by simp [hsign]), List.map_cons]
          apply Warnings.unsigned
          · intro hsigned
            rw [(hasSign_iff feature).mpr hsigned] at hsign
            contradiction
          · exact ih

theorem tellsLookup_resolve (config : Config) (lookup : String → Option Handle) :
    TellsLookup config.triple (config.resolve lookup).value.1 (config.resolve lookup).events := by
  cases hlookup : lookup config.triple with
  | none =>
      rw [resolve_of_none hlookup]
      exact .missing _
  | some handle =>
      rw [resolve_of_some hlookup]
      exact .found handle

/-! ## Filling in -/

theorem tellsChange_fillFeatures (config : Config) (arch : Arch) {features : List String}
    (hfilled : features ≠ [] → joinFeatures features ≠ "") :
    let after := (config.fillFeatures arch features).value.featureString
    TellsChange config.featureString after
      (fun event => event = .defaultFeatures arch features ∧ after = joinFeatures features)
      (config.fillFeatures arch features).events := by
  unfold fillFeatures
  split
  next hopen =>
    obtain ⟨hblank, hsome⟩ : config.featureString = "" ∧ features ≠ [] := by simpa using hopen
    refine .changed ?_ ⟨rfl, rfl⟩
    rw [hblank]
    exact hfilled hsome
  next => exact .unchanged rfl

theorem tellsChange_fillRelocation (config : Config) (arch : Arch) {model : Option RelocationModel}
    (hfilled : model ≠ some .default) :
    let after := (config.fillRelocation arch model).value.relocationModel
    TellsChange config.relocationModel after (· = .defaultRelocation arch after)
      (config.fillRelocation arch model).events := by
  unfold fillRelocation
  split
  next model =>
    split
    next hopen =>
      refine .changed ?_ rfl
      rw [hopen]
      exact fun hdefault => hfilled (congrArg some hdefault)
    next => exact .unchanged rfl
  next => exact .unchanged rfl

theorem tellsFilling_fillDefaults (config : Config) :
    TellsFilling config config.fillDefaults.value config.fillDefaults.events := by
  unfold fillDefaults
  split
  next => exact ⟨[], [], rfl, .unchanged rfl, .unchanged rfl⟩
  next arch harch =>
    let filled := config.fillFeatures arch arch.preferences.features
    let after := filled.value.fillRelocation arch arch.preferences.relocationModel
    -- each of the two steps leaves the setting of the other one alone
    have hkept : after.value.featureString = filled.value.featureString := by
      simp only [after, fillRelocation_value]
    have hbefore : filled.value.relocationModel = config.relocationModel := by
      simp only [filled, fillFeatures_value]
    have hfeatures := config.tellsChange_fillFeatures arch arch.joinFeatures_preferences_ne
    have hrelocation := filled.value.tellsChange_fillRelocation arch
      arch.preferences_relocationModel_ne
    rw [hbefore] at hrelocation
    refine ⟨filled.events, after.events, rfl, ?_, ?_⟩
    · rw [hkept]
      apply hfeatures.imp
      intro event hevent
      exact ⟨arch, _, harch, hevent⟩
    · apply hrelocation.imp
      intro event hevent
      exact ⟨arch, harch, hevent⟩

/-- There is nothing to fill in where each setting with a preference is set already. -/
theorem fillDefaults_of_set {config : Config} {arch : Arch} (harch : config.arch = some arch)
    (hfeatures : arch.preferences.features ≠ [] → config.featureString ≠ "")
    (hrelocation : arch.preferences.relocationModel ≠ none → config.relocationModel ≠ .default) :
    config.fillDefaults = ⟨config, []⟩ := by
  have hfirst : config.fillFeatures arch arch.preferences.features = ⟨config, []⟩ := by
    unfold fillFeatures
    apply if_neg
    intro hopen
    obtain ⟨hblank, hsome⟩ : config.featureString = "" ∧ arch.preferences.features ≠ [] := by
      simpa using hopen
    exact hfeatures hsome hblank
  have hsecond : config.fillRelocation arch arch.preferences.relocationModel = ⟨config, []⟩ := by
    unfold fillRelocation
    split
    next model hmodel => exact if_neg (hrelocation (by simp [hmodel]))
    next => rfl
  simp only [fillDefaults, harch, hfirst, hsecond, List.append_nil]

theorem fillDefaults_fillDefaults (config : Config) :
    config.fillDefaults.value.fillDefaults = ⟨config.fillDefaults.value, []⟩ := by
  cases harch : config.arch with
  | none =>
      rw [fillDefaults_value_of_none harch]
      simp only [fillDefaults, harch]
  | some arch =>
      have hvalue := fillDefaults_value harch
      have hafter : config.fillDefaults.value.arch = some arch := by rw [hvalue, harch]
      apply fillDefaults_of_set hafter
      · intro hsome
        rw [hvalue]
        dsimp only
        split
        next => exact arch.joinFeatures_preferences_ne hsome
        next hset => exact hset
      · intro hsome
        obtain ⟨model, hmodel⟩ := Option.ne_none_iff_exists'.mp hsome
        have hne := arch.preferences_relocationModel_ne
        rw [hvalue]
        dsimp only
        split
        next => simpa [hmodel] using hne
        next hset => exact hset

end Config

end TargetConfig
