import TargetConfig.Proofs.Profile.RoundTrip
import TargetConfig.Proofs.Request.NamedFile
import TargetConfig.Summary

/-! # A resolved configuration resolves to itself

What a request resolved can be saved as a document and resolved again, with nothing but the name of
the file. Nothing is filled in a second time: where a preference of the architecture was used it
stands in the document, and where there was none there is still none.
-/

namespace TargetConfig

theorem Arch.isToggle_of_mem_preferences {arch : Arch} {feature : String}
    (hfeature : feature ∈ arch.preferences.features) : IsToggle feature := by
  have hissues : featureIssues arch.preferences.features = [] := by cases arch <;> rfl
  exact (featureIssues_eq_nil_iff _).mp hissues feature hfeature

namespace Request

/-- The features of a resolved configuration are toggles, whether they come from the profile or
from the architecture. -/
theorem isToggle_of_mem_resolved {request : Request} {profile : Profile} {handle : Handle}
    (htoggles : ∀ feature ∈ profile.features, IsToggle feature) :
    ∀ feature ∈ splitFeatures (request.resolved profile handle).featureString,
      IsToggle feature := by
  unfold resolved
  dsimp only
  split
  next =>
    rw [splitFeatures_joinFeatures_of_toggles fun _ => Arch.isToggle_of_mem_preferences]
    exact fun _ => Arch.isToggle_of_mem_preferences
  next =>
    rw [splitFeatures_joinFeatures_of_toggles htoggles]
    exact htoggles

/-- A preference that was used is not used again to another effect. A value that is still the open
one after the first time was open before, and then the preference is the open value itself. -/
theorem fill_again {α : Type} [DecidableEq α] {first second : Prop} [Decidable first]
    [Decidable second] (hallowed : second → first) (value unset preferred : α) :
    let filled := if first ∧ value = unset then preferred else value
    (if second ∧ filled = unset then preferred else filled) = filled := by
  intro filled
  by_cases hsecond : second
  · by_cases hopen : value = unset
    · have hfilled : filled = preferred := if_pos ⟨hallowed hsecond, hopen⟩
      rw [hfilled]
      exact ite_self _
    · have hfilled : filled = value := if_neg fun h => hopen h.2
      rw [hfilled, if_neg fun h => hopen h.2]
  · exact if_neg fun h => hsecond h.1

/-- A resolved configuration leaves nothing open that could still be filled in. -/
theorem resolved_ofConfig {request second : Request} (profile : Profile) (handle : Handle)
    (hdefaults : request.noArchDefaults = false ∨ second.noArchDefaults = true) :
    second.resolved (Profile.ofConfig (request.resolved profile handle)) handle =
      request.resolved profile handle := by
  have hallowed : second.noArchDefaults = false → request.noArchDefaults = false := by
    intro hsecond
    exact hdefaults.resolve_right (by simp [hsecond])
  let arch := archOf profile.triple
  have hfeatures := fill_again hallowed (joinFeatures profile.features) ""
    (joinFeatures arch.preferences.features)
  have hrelocation := fill_again hallowed profile.relocationModel .default
    (arch.preferences.relocationModel.getD .default)
  simp only [resolved, Profile.ofConfig, joinFeatures_splitFeatures, Config.mk.injEq, true_and,
    and_true]
  exact ⟨hrelocation, hfeatures⟩

/-- A configuration that was resolved can be written as a document, and the request for a file with
this document is resolved to it again: in any file tree, from any working directory and with the
same backends. Only the preferences of the architecture may not be asked for if they were refused
at first. -/
theorem resolve_saved {request : Request} {lookup : String → Option Handle} {tree : FileTree}
    {cwd : WorkingDirectory} {config : Config}
    (hresolve : (request.resolve lookup tree cwd).result = .ok config) :
    ∃ text, config.render (some "toml") = .ok text ∧
      ∀ (saved : FileTree) (place : WorkingDirectory) (path : Path) (noArchDefaults : Bool),
        saved.read place.place path = .ok text →
        request.noArchDefaults = false ∨ noArchDefaults = true →
        (resolve { config := some path, noArchDefaults } lookup saved place).result =
          .ok config := by
  obtain ⟨base, profile, handle, _, _, htoggles, hlookup, rfl⟩ :=
    (resolve_eq_ok_iff request lookup tree cwd config).mp hresolve
  let document := Profile.ofConfig (request.resolved profile handle)
  refine ⟨document.render, rfl, ?_⟩
  intro saved place path noArchDefaults hread hdefaults
  have hparse := Profile.parse_of_document document.document_parse_render document.ofEntries_table
  have hload := FileTree.load_of_read hread hparse
  apply (resolve_eq_ok_iff _ lookup saved place _).mpr
  refine ⟨document, document, handle, baseProfile_saved hload noArchDefaults,
    effective_saved path noArchDefaults document, isToggle_of_mem_resolved htoggles, hlookup, ?_⟩
  exact (resolved_ofConfig profile handle hdefaults).symm

/-- The preferred features of ARM are filled in at first, and from then on they stand in the file,
where a request that refuses preferences still finds them. -/
theorem resolve_saved_arm :
    let request : Request := { triple := some "arm-linux-gnueabi", cpu := some "cortex-a9" }
    let config : Config :=
      { triple := "arm-linux-gnueabi", cpu := "cortex-a9", featureString := "+vfp3,+neon",
        target := some ⟨"arm", "ARM", "arm-linux-gnueabi"⟩, arch := some .arm }
    let root : WorkingDirectory := ⟨⟨[], by simp⟩, ⟨"/"⟩⟩
    (request.resolve Registry.full.lookup ⟨.directory []⟩ root).result = .ok config ∧
      ∃ text, config.render (some "toml") = .ok text ∧
        (resolve { config := some ⟨"/saved.toml"⟩, noArchDefaults := true } Registry.full.lookup
          ⟨.directory [("saved.toml", .file text.toUTF8)]⟩ root).result = .ok config := by
  intro request config root
  have hresolve : (request.resolve Registry.full.lookup ⟨.directory []⟩ root).result =
      .ok config := by decide +kernel
  obtain ⟨text, hrender, hagain⟩ := resolve_saved hresolve
  refine ⟨hresolve, text, hrender, ?_⟩
  apply hagain _ root ⟨"/saved.toml"⟩ true
  · have hlocate : FileTree.locate ⟨.directory [("saved.toml", .file text.toUTF8)]⟩ root.place
        ⟨"/saved.toml"⟩ = .ok ["saved.toml"] := rfl
    exact FileTree.read_of_occupant? hlocate rfl
  · exact Or.inl rfl

end Request

end TargetConfig
