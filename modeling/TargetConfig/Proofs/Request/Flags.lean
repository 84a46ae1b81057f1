import TargetConfig.Proofs.Request.NamedFile
import TargetConfig.Proofs.Setting.Spelling

/-! # Saying a profile by flags

A profile without target options can be handed over in two ways: written to a file that a request
names, or said setting by setting in the flags of a request. Both have the same outcome and log the
same events. The two ways share no reader. A file is read as a document; the flags are cut at commas
and trimmed, and the models in them are compared without regard to case.
-/

namespace TargetConfig

namespace Request

/-- The request that says every setting of a profile by a flag. Target options have no flags. -/
def ofFlags (profile : Profile) (noArchDefaults : Bool) : Request where
  triple := some profile.triple
  cpu := some profile.cpu
  features := some (joinFeatures profile.features)
  optLevel := some profile.optimizationLevel.label
  codeModel := some profile.codeModel.label
  reloc := some profile.relocationModel.label
  noArchDefaults

theorem override_label {α : Type} [Setting α] [LawfulSetting α] (a old : α) :
    override (some (Enumerated.label a)) old = .ok a := by
  unfold override
  dsimp only
  rw [Setting.ofFlag_label]
  rfl

/-- The flags for a profile say this profile again. -/
theorem profile_ofFlags {profile : Profile}
    (htoggles : ∀ feature ∈ profile.features, IsToggle feature)
    (hoptions : profile.targetOptions = {}) (noArchDefaults : Bool) (tree : FileTree)
    (cwd : WorkingDirectory) :
    (ofFlags profile noArchDefaults).profile tree cwd = .ok profile := by
  let request := ofFlags profile noArchDefaults
  let base := Profile.ofConfig (Config.new profile.triple)
  have hbase : request.baseProfile tree cwd = .ok base := rfl
  have hlevel : override request.optLevel base.optimizationLevel =
      .ok profile.optimizationLevel := override_label _ _
  have hmodel : override request.codeModel base.codeModel = .ok profile.codeModel :=
    override_label _ _
  have hreloc : override request.reloc base.relocationModel = .ok profile.relocationModel :=
    override_label _ _
  change request.profile tree cwd = _
  -- triple and processor are taken as they stand; the features go through a text and back
  rw [Request.profile, hbase, Attempt.ok_bind, hlevel, Attempt.ok_bind, hmodel, Attempt.ok_bind,
    hreloc, Attempt.ok_bind]
  change Attempt.ok { profile with
    features := featuresOfFlag (joinFeatures profile.features), targetOptions := {} } = .ok profile
  rw [featuresOfFlag_joinFeatures_of_toggles htoggles, ← hoptions]

theorem result_resolve_ofFlags {profile : Profile}
    (hissues : featureIssues profile.features = []) (hoptions : profile.targetOptions = {})
    (lookup : String → Option Handle) (noArchDefaults : Bool) (tree : FileTree)
    (cwd : WorkingDirectory) :
    ((ofFlags profile noArchDefaults).resolve lookup tree cwd).result =
      match lookup profile.triple with
      | some handle => .ok ((ofFlags profile noArchDefaults).resolved profile handle)
      | none => .error (.target (.unsupportedTriple profile.triple)) := by
  have htoggles := (featureIssues_eq_nil_iff profile.features).mp hissues
  rw [result_resolve, profile_ofFlags htoggles hoptions, Attempt.result_ok, Except.bind]
  cases hlookup : lookup profile.triple with
  | none => rw [settle, if_pos hissues, hlookup]
  | some handle => rw [settle, if_pos hissues, hlookup]

/-- A profile with well-formed features and without target options has the same outcome, and the
same log, through a file as through flags. If the backend is there it is resolved, and else its
triple is unsupported. -/
theorem resolve_file_eq_resolve_flags (profile : Profile)
    (hissues : featureIssues profile.features = []) (hoptions : profile.targetOptions = {})
    (lookup : String → Option Handle) (noArchDefaults : Bool) (tree : FileTree)
    (cwd : WorkingDirectory) (path : Path) (hread : tree.read cwd.place path = .ok profile.render)
    (elsewhere : FileTree) (place : WorkingDirectory) :
    resolve { config := some path, noArchDefaults } lookup tree cwd =
        (ofFlags profile noArchDefaults).resolve lookup elsewhere place ∧
      (resolve { config := some path, noArchDefaults } lookup tree cwd).result =
        match lookup profile.triple with
        | some handle => .ok ((ofFlags profile noArchDefaults).resolved profile handle)
        | none => .error (.target (.unsupportedTriple profile.triple)) := by
  have htoggles := (featureIssues_eq_nil_iff profile.features).mp hissues
  have hfile := profile_saved (FileTree.load_of_read_render hread) noArchDefaults
  have hflags := profile_ofFlags htoggles hoptions noArchDefaults elsewhere place
  have hsame : resolve { config := some path, noArchDefaults } lookup tree cwd =
      (ofFlags profile noArchDefaults).resolve lookup elsewhere place :=
    resolve_congr (hfile.trans hflags.symm) rfl
  refine ⟨hsame, ?_⟩
  rw [hsame]
  exact result_resolve_ofFlags hissues hoptions lookup noArchDefaults elsewhere place

/-- Quotes, a backslash and a line end in the texts make no difference. -/
theorem resolve_file_eq_resolve_flags_arm :
    let profile : Profile :=
      { triple := "arm-'\"\n", cpu := "a\\b", features := ["+neon", "-vfp"], codeModel := .kernel,
        relocationModel := .dynamicNoPic }
    let tree : FileTree := ⟨.directory [("saved.toml", .file profile.render.toUTF8)]⟩
    let root : WorkingDirectory := ⟨⟨[], by simp⟩, ⟨"/"⟩⟩
    featureIssues profile.features = [] ∧
      tree.read root.place ⟨"/saved.toml"⟩ = .ok profile.render ∧
      resolve { config := some ⟨"/saved.toml"⟩ } Registry.full.lookup tree root =
        (ofFlags profile false).resolve Registry.full.lookup ⟨.directory []⟩ root ∧
      (resolve { config := some ⟨"/saved.toml"⟩ } Registry.full.lookup tree root).result =
        .ok ((ofFlags profile false).resolved profile ⟨"arm", "ARM", "arm-'\"\n"⟩) := by
  intro profile tree root
  have hissues : featureIssues profile.features = [] := by decide +kernel
  have hlocate : FileTree.locate tree root.place ⟨"/saved.toml"⟩ = .ok ["saved.toml"] := rfl
  have hread : tree.read root.place ⟨"/saved.toml"⟩ = .ok profile.render :=
    FileTree.read_of_occupant? hlocate rfl
  obtain ⟨hsame, hresult⟩ := resolve_file_eq_resolve_flags profile hissues rfl
    Registry.full.lookup false tree root ⟨"/saved.toml"⟩ hread ⟨.directory []⟩ root
  have hlookup : Registry.full.lookup profile.triple = some ⟨"arm", "ARM", "arm-'\"\n"⟩ := by
    decide +kernel
  refine ⟨hissues, hread, hsame, ?_⟩
  rw [hresult, hlookup]

end Request

end TargetConfig
