import Mathlib.Data.List.Forall2
import TargetConfig.Profile
import TargetConfig.Proofs.Feature.Toggles

/-! # Profiles by way of a configuration

A configuration keeps the features of a profile as one text. Captured again, the profile has the
pieces between the commas of this text. So an entry with commas comes back as several, and the one
empty entry, whose text is that of no entry at all, does not come back. All else stays as it is.
-/

namespace TargetConfig

open Text

/-- The texts between the commas of an entry; an entry without commas is the only one of its own. -/
def CommaPieces (feature : String) (pieces : List String) : Prop :=
  pieces ≠ [] ∧ joinFeatures pieces = feature ∧ ∀ piece ∈ pieces, ',' ∉ piece.toList

theorem commaPieces_split (feature : String) :
    CommaPieces feature ((split ',' feature.toList).map String.ofList) := by
  refine ⟨by simpa using split_ne_nil feature.toList, ?_, ?_⟩
  · simp [joinFeatures, List.map_map, Function.comp_def, join_split]
  · refine List.forall_mem_map.mpr ?_
    intro piece hpiece
    rw [String.toList_ofList]
    exact not_mem_of_mem_split hpiece

theorem comma_not_mem_of_mem_splitFeatures {s feature : String}
    (hfeature : feature ∈ splitFeatures s) : ',' ∉ feature.toList := by
  by_cases hempty : s = ""
  · subst hempty
    simp [splitFeatures] at hfeature
  · rw [splitFeatures_of_ne hempty] at hfeature
    exact (commaPieces_split s).2.2 feature hfeature

theorem splitFeatures_ne_single_empty (s : String) : splitFeatures s ≠ [""] := by
  intro hsplit
  have hempty : s = "" := by
    rw [← joinFeatures_splitFeatures s, hsplit]
    rfl
  rw [hempty] at hsplit
  simp [splitFeatures] at hsplit

/-- Each entry is split by itself, in order. -/
theorem splitFeatures_joinFeatures_eq_flatten {features : List String} (hne : features ≠ [""]) :
    ∃ groups, List.Forall₂ CommaPieces features groups ∧
      splitFeatures (joinFeatures features) = groups.flatten := by
  refine ⟨features.map fun feature => (split ',' feature.toList).map String.ofList, ?_, ?_⟩
  · apply List.forall₂_map_right_iff.mpr
    apply List.forall₂_same.mpr
    intro feature _
    exact commaPieces_split feature
  · by_cases hnil : features = []
    · subst hnil
      rfl
    · have hjoin : joinFeatures features ≠ "" := by
        intro hempty
        exact ((joinFeatures_eq_empty_iff features).mp hempty).elim hnil hne
      rw [splitFeatures_of_ne hjoin, toList_joinFeatures,
        split_join_eq_flatMap (by simpa using hnil)]
      simp [List.flatMap_def, List.map_flatten, List.map_map, Function.comp_def]

theorem splitFeatures_joinFeatures_eq_self_iff (features : List String) :
    splitFeatures (joinFeatures features) = features ↔
      (∀ feature ∈ features, ',' ∉ feature.toList) ∧ features ≠ [""] := by
  constructor
  · intro hself
    constructor
    · intro feature hfeature
      rw [← hself] at hfeature
      exact comma_not_mem_of_mem_splitFeatures hfeature
    · rw [← hself]
      exact splitFeatures_ne_single_empty _
  · rintro ⟨hcomma, hne⟩
    exact splitFeatures_joinFeatures hne hcomma

namespace Profile

/-- The profile that is captured from the configuration which a profile describes. -/
def recaptured (profile : Profile) : Profile := ofConfig profile.toConfig.value

theorem recaptured_eq (profile : Profile) :
    profile.recaptured =
      { profile with features := splitFeatures (joinFeatures profile.features) } := rfl

theorem recaptured_eq_self_iff (profile : Profile) :
    profile.recaptured = profile ↔
      (∀ feature ∈ profile.features, ',' ∉ feature.toList) ∧ profile.features ≠ [""] := by
  rw [← splitFeatures_joinFeatures_eq_self_iff, recaptured_eq]
  constructor
  · intro hself
    exact congrArg Profile.features hself
  · intro hfeatures
    rw [hfeatures]

/-- A profile comes back from its configuration with the features between the commas of its own. It
is the same profile just when its features have no commas and are not the one empty entry, so that
well-formed features always come back, and from the second time on nothing changes any more. -/
theorem recaptured_exact (profile : Profile) :
    profile.recaptured = { profile with features := profile.recaptured.features } ∧
    (profile.features = [] ∨ profile.features = [""] → profile.recaptured.features = []) ∧
    (profile.features ≠ [""] → ∃ groups, List.Forall₂ CommaPieces profile.features groups ∧
      profile.recaptured.features = groups.flatten) ∧
    (profile.recaptured = profile ↔
      (∀ feature ∈ profile.features, ',' ∉ feature.toList) ∧ profile.features ≠ [""]) ∧
    (featureIssues profile.features = [] → profile.recaptured = profile) ∧
    profile.recaptured.recaptured = profile.recaptured := by
  refine ⟨rfl, ?_, splitFeatures_joinFeatures_eq_flatten, recaptured_eq_self_iff profile, ?_, ?_⟩
  · rintro (hfeatures | hfeatures)
    · rw [recaptured_eq, hfeatures]
      rfl
    · rw [recaptured_eq, hfeatures]
      rfl
  · intro hissues
    have htoggles := (featureIssues_eq_nil_iff profile.features).mp hissues
    rw [recaptured_eq, splitFeatures_joinFeatures_of_toggles htoggles]
  · rw [recaptured_eq_self_iff]
    constructor
    · exact fun _ hfeature => comma_not_mem_of_mem_splitFeatures hfeature
    · exact splitFeatures_ne_single_empty _

end Profile

end TargetConfig
