import TargetConfig.Proofs.FileTree.Ways
import TargetConfig.Proofs.Profile.RoundTrip
import TargetConfig.Proofs.Request.Start

/-! # Requests for a named file

A request that names a file and says nothing else starts from the profile in this file and changes
nothing in it. Where the file is and how it is called does not matter, as long as it can be read.
-/

namespace TargetConfig

namespace FileTree

theorem contains_of_read {tree : FileTree} {place : Directory} {path : Path} {text : String}
    (hread : tree.read place path = .ok text) : tree.contains place path = true := by
  obtain ⟨location, _, hlocate, _⟩ := read_eq_ok_iff.mp hread
  rw [contains, hlocate]

theorem load_of_read {tree : FileTree} {cwd : WorkingDirectory} {path : Path} {text : String}
    {profile : Profile} (hread : tree.read cwd.place path = .ok text)
    (hparse : Profile.parse text = .ok profile) : tree.load cwd path = .ok profile := by
  simp only [load, loadProfile, contains_of_read hread, if_true, hread, hparse,
    Attempt.mapError_ok]

theorem load_of_read_render {tree : FileTree} {cwd : WorkingDirectory} {path : Path}
    {profile : Profile} (hread : tree.read cwd.place path = .ok profile.render) :
    tree.load cwd path = .ok profile := by
  apply load_of_read hread
  exact Profile.parse_of_document profile.document_parse_render profile.ofEntries_table

end FileTree

namespace Request

/-- The request for a saved file starts from the profile in it. -/
theorem baseProfile_saved {tree : FileTree} {cwd : WorkingDirectory} {path : Path}
    {profile : Profile} (hload : tree.load cwd path = .ok profile) (noArchDefaults : Bool) :
    (baseProfile { config := some path, noArchDefaults } tree cwd).result = .ok profile := by
  rw [baseProfile_of_config rfl rfl, hload]

/-- Without further settings, the effective profile is the starting profile. -/
theorem effective_saved (path : Path) (noArchDefaults : Bool) (profile : Profile) :
    Effective { config := some path, noArchDefaults } profile profile :=
  ⟨rfl, rfl, rfl, rfl, rfl, rfl, rfl⟩

/-- Nothing is logged on the way from a named file to the effective profile. -/
theorem profile_saved {tree : FileTree} {cwd : WorkingDirectory} {path : Path}
    {profile : Profile} (hload : tree.load cwd path = .ok profile) (noArchDefaults : Bool) :
    Request.profile { config := some path, noArchDefaults } tree cwd = .ok profile := by
  simp only [Request.profile, baseProfile, startingProfile, hload]
  rfl

end Request

end TargetConfig
