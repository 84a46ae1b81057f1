import TargetConfig.Backend
import TargetConfig.Proofs.FileTree.Nearest
import TargetConfig.Proofs.Request.Start

/-! # Files that are found and files that are named

It makes no difference whether a request is left to the file that a search finds or names this file
itself. The two ways to the file share no more than the reading: a named file only has to be there,
a searched one has to be a regular file, and their failures say differently what was being done. The
cause behind a failure is the same.
-/

namespace TargetConfig

namespace FileTree

variable {tree : FileTree} {cwd : WorkingDirectory} {directory : Path} {file : Occupant}

/-- A regular file of the conventional name, when it is named. -/
theorem HoldsConfig.load_eq (hholds : tree.HoldsConfig cwd directory file) :
    tree.load cwd (directory.child configFileName) =
      match file.read with
      | .ok text => (Profile.parse text).mapError fun error =>
          .during .loading (directory.child configFileName) (.target error)
      | .error error =>
          .error (.during .loading (directory.child configFileName) (.target (.file error))) := by
  have hread := hholds.read_eq
  obtain ⟨⟨location, hlocate, _⟩, _⟩ := hholds
  have hcontains : tree.contains cwd.place (directory.child configFileName) = true := by
    rw [contains, hlocate]
  rw [load, loadProfile, if_pos hcontains, hread]
  cases file.read <;> rfl

end FileTree

namespace Request

/-- The results of a request that is left to a file, and of one that names it. If the file can be
loaded, they are the same. If not, both requests fail, with one cause. -/
inductive Agree (path : Path) (file : Occupant) :
    Except Failure Config → Except Failure Config → Prop
  | loaded {text : String} {profile : Profile} {result : Except Failure Config}
      (hread : file.read = .ok text) (hparse : Profile.parse text = .ok profile) :
      Agree path file result result
  | unreadable {error : FileError} (hread : file.read = .error error) :
      Agree path file (.error (.during .reading path (.file error)))
        (.error (.during .loading path (.target (.file error))))
  | malformed {text reason : String} (hread : file.read = .ok text)
      (hparse : Profile.parse text = .error (.document reason)) :
      Agree path file (.error (.during .parsing path (.target (.document reason))))
        (.error (.during .loading path (.target (.document reason))))

namespace Agree

variable {path : Path} {file : Occupant} {found named : Except Failure Config}

theorem eq_ok_iff (hagree : Agree path file found named) (config : Config) :
    found = .ok config ↔ named = .ok config := by
  cases hagree with
  | loaded => rfl
  | unreadable | malformed => simp

/-- The last message of a failure is that of the cause behind all others. -/
theorem getLast?_chain_eq (hagree : Agree path file found named) {first second : Failure}
    (hfound : found = .error first) (hnamed : named = .error second) :
    first.chain.getLast? = second.chain.getLast? := by
  cases hagree with
  | loaded => rw [Except.error.inj (hfound.symm.trans hnamed)]
  | unreadable | malformed =>
      rw [← Except.error.inj hfound, ← Except.error.inj hnamed]
      rfl

end Agree

/-- What a request that is left to the search starts from, and what one that names the nearest file
starts from. -/
theorem baseProfile_nearest {tree : FileTree} {cwd : WorkingDirectory} {directory : Path}
    {file : Occupant} (hnearest : tree.Nearest cwd directory file) {request : Request}
    (hconfig : request.config = none) (htriple : request.triple = none) :
    let named := { request with config := some (directory.child configFileName) }
    (request.baseProfile tree cwd).result = tree.profileIn cwd directory ∧
      (named.baseProfile tree cwd).result = tree.load cwd (directory.child configFileName) := by
  constructor
  · rw [baseProfile_of_search hconfig htriple, FileTree.discover_of_nearest hnearest]
    cases tree.profileIn cwd directory <;> rfl
  · apply baseProfile_of_config
    · rfl
    · exact htriple

theorem agree_of_nearest {tree : FileTree} {cwd : WorkingDirectory} {directory : Path}
    {file : Occupant} (hnearest : tree.Nearest cwd directory file) {request : Request}
    (hconfig : request.config = none) (htriple : request.triple = none)
    (lookup : String → Option Handle) :
    let named := { request with config := some (directory.child configFileName) }
    Agree (directory.child configFileName) file (request.resolve lookup tree cwd).result
      (named.resolve lookup tree cwd).result := by
  intro named
  obtain ⟨hfound, hnamed⟩ := baseProfile_nearest hnearest hconfig htriple
  rw [hnearest.holds.load_eq] at hnamed
  cases hread : file.read with
  | error error =>
      rw [hread] at hnamed
      rw [(hnearest.holds.profileIn_eq_error_iff _).mpr (.reading hread)] at hfound
      rw [result_resolve_of_baseProfile_error hfound, result_resolve_of_baseProfile_error hnamed]
      exact .unreadable hread
  | ok text =>
      rw [hread] at hnamed
      cases hparse : Profile.parse text with
      | ok profile =>
          -- the two requests start from the same profile, and nothing else sets them apart
          have hprofile := (hnearest.holds.profileIn_eq_ok_iff profile).mpr ⟨text, hread, hparse⟩
          have hsame : (request.baseProfile tree cwd).result =
              (named.baseProfile tree cwd).result := by
            rw [hfound, hprofile, hnamed]
            simp only [hparse, Attempt.mapError_ok]
          rw [result_resolve_of_baseProfile hsame]
          exact .loaded hread hparse
      | error error =>
          obtain ⟨reason, rfl⟩ := Profile.exists_reason_of_parse hparse
          simp only [hparse, Attempt.mapError_error] at hnamed
          rw [(hnearest.holds.profileIn_eq_error_iff _).mpr (.parsing hread hparse)] at hfound
          rw [result_resolve_of_baseProfile_error hfound,
            result_resolve_of_baseProfile_error hnamed]
          exact .malformed hread hparse

/-- Left to the search, a request has the result that it has when it names the file that the search
comes to: the same configuration, or the same failure if something else than the file is refused. A
file that cannot be loaded makes both fail, and the cause is the same. -/
theorem resolve_nearest_agrees {tree : FileTree} {cwd : WorkingDirectory} {directory : Path}
    {file : Occupant} (hnearest : tree.Nearest cwd directory file) {request : Request}
    (hconfig : request.config = none) (htriple : request.triple = none)
    (lookup : String → Option Handle) :
    let path := directory.child configFileName
    let found := (request.resolve lookup tree cwd).result
    let named := (resolve { request with config := some path } lookup tree cwd).result
    Agree path file found named ∧ (∀ config, found = .ok config ↔ named = .ok config) ∧
      ∀ first second, found = .error first → named = .error second →
        first.chain.getLast? = second.chain.getLast? := by
  intro path found named
  have hagree : Agree path file found named := agree_of_nearest hnearest hconfig htriple lookup
  exact ⟨hagree, hagree.eq_ok_iff, fun _ _ => hagree.getLast?_chain_eq⟩

/-- From the inner directory the nearest file is found through a link and past a directory of the
conventional name, and it can be loaded; from the root the nearest file may not be read. -/
theorem resolve_nearest_agrees_inside :
    let file : Occupant := .file "triple = \"arm-none\"\n".toUTF8
    let secret : Occupant := .file .empty { read := false }
    let tree : FileTree := ⟨.directory [("bcc.toml", .file .empty { read := false }),
      ("shared", .file "triple = \"arm-none\"\n".toUTF8), ("work", .directory
        [("bcc.toml", .link ⟨"../shared"⟩),
          ("box", .directory [("bcc.toml", .directory [])])])]⟩
    let place : Directory := ⟨[], by simp⟩
    let inner : WorkingDirectory := ⟨place, ⟨"/work/./box"⟩⟩
    let root : WorkingDirectory := ⟨place, ⟨"/"⟩⟩
    let request : Request := { cpu := some "generic", features := some "+neon" }
    let named (path : Path) : Request := { request with config := some path }
    let lookup := Registry.full.lookup
    tree.Nearest inner ⟨"/work"⟩ file ∧
      Agree ⟨"/work/bcc.toml"⟩ file (request.resolve lookup tree inner).result
        ((named ⟨"/work/bcc.toml"⟩).resolve lookup tree inner).result ∧
      tree.Nearest root ⟨"/"⟩ secret ∧
      Agree ⟨"/bcc.toml"⟩ secret (request.resolve lookup tree root).result
        ((named ⟨"/bcc.toml"⟩).resolve lookup tree root).result := by
  intro file secret tree place inner root request named lookup
  have hinner : tree.Nearest inner ⟨"/work"⟩ file := by
    apply FileTree.nearest_of_holdsConfig
    · decide +kernel
    · exact ⟨⟨["shared"], rfl, rfl⟩, _, _, rfl⟩
  have hroot : tree.Nearest root ⟨"/"⟩ secret := by
    apply FileTree.nearest_of_holdsConfig
    · decide +kernel
    · exact ⟨⟨["bcc.toml"], rfl, rfl⟩, _, _, rfl⟩
  exact ⟨hinner, (resolve_nearest_agrees hinner rfl rfl lookup).1, hroot,
    (resolve_nearest_agrees hroot rfl rfl lookup).1⟩

end Request

end TargetConfig
