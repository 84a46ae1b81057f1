import TargetConfig.Proofs.Request.Resolution

/-! # Where a request starts

A request starts from a named file, from the profile of its triple, or from the file that a search
finds. Two requests that have the same settings otherwise have the same result if they start from
the same profile, and also if they fail to start in the same way.
-/

namespace TargetConfig.Request

theorem baseProfile_of_config {request : Request} {path : Path}
    (hconfig : request.config = some path) (htriple : request.triple = none) (tree : FileTree)
    (cwd : WorkingDirectory) :
    (request.baseProfile tree cwd).result = tree.load cwd path := by
  unfold baseProfile startingProfile
  rw [hconfig, htriple, Attempt.result_bind]
  cases hload : tree.load cwd path <;> simp [hload, Except.map, Except.bind]

/-- With a triple and no file, a request starts from the profile that has every setting open. -/
theorem baseProfile_of_triple {request : Request} (hconfig : request.config = none)
    (triple : String) (tree : FileTree) (cwd : WorkingDirectory) :
    (baseProfile { request with triple := some triple } tree cwd).result =
      .ok (Profile.ofConfig (Config.new triple)) := by
  unfold baseProfile startingProfile
  rw [hconfig]
  rfl

/-- Without a triple and a file, a request starts from what a search finds. -/
theorem baseProfile_of_search {request : Request} (hconfig : request.config = none)
    (htriple : request.triple = none) (tree : FileTree) (cwd : WorkingDirectory) :
    (request.baseProfile tree cwd).result =
      (tree.discover cwd).bind fun found =>
        match found with
        | some (profile, _) => .ok profile
        | none => .error .noTriple := by
  unfold baseProfile startingProfile
  rw [hconfig, htriple]
  rcases tree.discover cwd with failure | _ | ⟨profile, directory⟩ <;> rfl

/-- A file and a triple that a request names are used for nothing but the profile that it starts
from. -/
theorem result_resolve_of_baseProfile {request : Request} {config : Option Path}
    {triple : Option String} {tree elsewhere : FileTree} {cwd place : WorkingDirectory}
    (hbase : (request.baseProfile tree cwd).result =
      (baseProfile { request with config, triple } elsewhere place).result)
    (lookup : String → Option Handle) :
    (request.resolve lookup tree cwd).result =
      (resolve { request with config, triple } lookup elsewhere place).result := by
  have hprofile : (request.profile tree cwd).result =
      (Request.profile { request with config, triple } elsewhere place).result := by
    unfold Request.profile
    rw [Attempt.result_bind, Attempt.result_bind, hbase]
  rw [result_resolve, result_resolve, hprofile]
  rfl

theorem result_resolve_of_baseProfile_error {request : Request} {tree : FileTree}
    {cwd : WorkingDirectory} {failure : Failure}
    (hbase : (request.baseProfile tree cwd).result = .error failure)
    (lookup : String → Option Handle) :
    (request.resolve lookup tree cwd).result = .error failure :=
  (resolve_eq_error_iff request lookup tree cwd failure).mpr (.profile (.start hbase))

end TargetConfig.Request
