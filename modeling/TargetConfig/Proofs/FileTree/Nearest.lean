import TargetConfig.Proofs.FileTree.Ascent
import TargetConfig.Proofs.FileTree.Search
import TargetConfig.Proofs.FileTree.Ways

/-! # What a search finds

A search goes up from its directory until it comes by a directory with a regular file of the
conventional name. That a directory has one means that the lookup of its path succeeds and ends at a
regular file: a path that is too long, that comes by a directory which may not be searched or by too
many links is passed over like one with nothing at its end.

The search ends in one of three ways: there is no such directory, and nothing is found; the file of
the first one is read and its profile is found; or this file is spoiled, and the search fails with a
report that names it. It never goes on behind the first file.
-/

namespace TargetConfig

/-- No text is refused but for what a document says or how it is written. -/
theorem Profile.exists_reason_of_parse {text : String} {error : ConfigError}
    (hparse : Profile.parse text = .error error) : ∃ reason, error = .document reason := by
  unfold Profile.parse at hparse
  split at hparse
  next => exact ⟨_, (Except.error.inj hparse).symm⟩
  next =>
    split at hparse
    next => contradiction
    next => exact ⟨_, (Except.error.inj hparse).symm⟩

namespace FileTree

variable {tree : FileTree} {cwd : WorkingDirectory} {directory : Path} {file : Occupant}

/-- The lookup of the conventional name in a directory succeeds, and this regular file is what it
leads to. -/
def HoldsConfig (tree : FileTree) (cwd : WorkingDirectory) (directory : Path) (file : Occupant) :
    Prop :=
  (∃ location, tree.locate cwd.place (directory.child configFileName) = .ok location ∧
    tree.occupant? location = some file) ∧ ∃ content access, file = .file content access

/-- On the way up from a working directory, this directory is the first with a regular file of the
conventional name, and this is the file. -/
structure Nearest (tree : FileTree) (cwd : WorkingDirectory) (directory : Path) (file : Occupant) :
    Prop where
  holds : tree.HoldsConfig cwd directory file
  first : ∃ n, cwd.path.above n = some directory ∧
    ∀ m < n, ∀ nearer, cwd.path.above m = some nearer → ∀ other, ¬ tree.HoldsConfig cwd nearer other

/-- Why there is no profile in a file: it has no text that can be read, or the text is no document
that describes a profile. -/
inductive Spoiled (path : Path) (file : Occupant) : Failure → Prop
  | reading {error : FileError} (hread : file.read = .error error) :
      Spoiled path file (.during .reading path (.file error))
  | parsing {text reason : String} (hread : file.read = .ok text)
      (hparse : Profile.parse text = .error (.document reason)) :
      Spoiled path file (.during .parsing path (.target (.document reason)))

/-! ## Files of the conventional name -/

theorem containsFile_iff (tree : FileTree) (cwd : WorkingDirectory) (directory : Path) :
    tree.containsFile cwd.place (directory.child configFileName) = true ↔
      ∃ file, tree.HoldsConfig cwd directory file := by
  unfold containsFile HoldsConfig
  cases tree.locate cwd.place (directory.child configFileName) with
  | error error => simp
  | ok location =>
      dsimp only
      rw [isFileAt_iff]
      constructor
      · rintro ⟨content, access, hfile⟩
        exact ⟨_, ⟨location, rfl, hfile⟩, content, access, rfl⟩
      · rintro ⟨_, ⟨_, hlocation, hfile⟩, content, access, rfl⟩
        obtain rfl := Except.ok.inj hlocation
        exact ⟨content, access, hfile⟩

theorem HoldsConfig.read_eq (hholds : tree.HoldsConfig cwd directory file) :
    tree.read cwd.place (directory.child configFileName) = file.read := by
  obtain ⟨⟨location, hlocate, hfile⟩, _⟩ := hholds
  exact read_eq_of_occupant? hlocate hfile

theorem HoldsConfig.profileIn_eq_ok_iff (hholds : tree.HoldsConfig cwd directory file)
    (profile : Profile) :
    tree.profileIn cwd directory = .ok profile ↔
      ∃ text, file.read = .ok text ∧ Profile.parse text = .ok profile := by
  simp only [profileIn, hholds.read_eq]
  cases file.read with
  | error error => simp
  | ok text => cases hparse : Profile.parse text <;> simp [hparse]

theorem HoldsConfig.profileIn_eq_error_iff (hholds : tree.HoldsConfig cwd directory file)
    (failure : Failure) :
    tree.profileIn cwd directory = .error failure ↔
      Spoiled (directory.child configFileName) file failure := by
  simp only [profileIn, hholds.read_eq]
  constructor
  · intro hfailure
    cases hread : file.read with
    | error error =>
        simp only [hread] at hfailure
        obtain rfl := Except.error.inj hfailure
        exact .reading hread
    | ok text =>
        simp only [hread] at hfailure
        cases hparse : Profile.parse text with
        | ok profile => simp [hparse] at hfailure
        | error error =>
            obtain ⟨reason, rfl⟩ := Profile.exists_reason_of_parse hparse
            rw [hparse, Attempt.mapError_error] at hfailure
            obtain rfl := Except.error.inj hfailure
            exact .parsing hread hparse
  · rintro (hread | ⟨hread, hparse⟩)
    · simp only [hread]
    · simp only [hread, hparse, Attempt.mapError_error]

/-! ## The first file on the way up -/

theorem nearest?_eq_none_iff (tree : FileTree) (cwd : WorkingDirectory) :
    tree.nearest? cwd = none ↔
      ∀ n directory, cwd.path.above n = some directory →
        ∀ file, ¬ tree.HoldsConfig cwd directory file := by
  simp only [nearest?, List.find?_eq_none, containsFile_iff, not_exists, List.mem_iff_getElem?,
    Path.getElem?_upward]
  constructor
  · exact fun hnone n directory habove => hnone directory ⟨n, habove⟩
  · rintro hnone directory ⟨n, habove⟩
    exact hnone n directory habove

theorem nearest?_eq_some_iff (tree : FileTree) (cwd : WorkingDirectory) (directory : Path) :
    tree.nearest? cwd = some directory ↔ ∃ file, tree.Nearest cwd directory file := by
  rw [nearest?, List.find?_eq_some_iff_getElem]
  constructor
  · rintro ⟨hcontains, n, hn, hdirectory, hnearer⟩
    obtain ⟨file, hholds⟩ := (containsFile_iff tree cwd directory).mp hcontains
    refine ⟨file, hholds, n, ?_, ?_⟩
    · rw [← Path.getElem?_upward, List.getElem?_eq_some_iff]
      exact ⟨hn, hdirectory⟩
    · intro m hm nearer habove other hother
      rw [← Path.getElem?_upward, List.getElem?_eq_some_iff] at habove
      obtain ⟨_, rfl⟩ := habove
      have hcontains := (containsFile_iff tree cwd _).mpr ⟨other, hother⟩
      simpa [hcontains] using hnearer m hm
  · rintro ⟨file, hholds, n, habove, hnearer⟩
    rw [← Path.getElem?_upward, List.getElem?_eq_some_iff] at habove
    obtain ⟨hn, hdirectory⟩ := habove
    refine ⟨(containsFile_iff tree cwd directory).mpr ⟨file, hholds⟩, n, hn, hdirectory, ?_⟩
    intro m hm
    rw [Bool.not_eq_true', ← Bool.not_eq_true, containsFile_iff]
    rintro ⟨other, hother⟩
    refine hnearer m hm _ ?_ other hother
    rw [← Path.getElem?_upward, List.getElem?_eq_getElem (Nat.lt_trans hm hn)]

theorem nearest_of_holdsConfig (hnearest : tree.nearest? cwd = some directory)
    (hholds : tree.HoldsConfig cwd directory file) : tree.Nearest cwd directory file := by
  obtain ⟨_, hfirst⟩ := (nearest?_eq_some_iff tree cwd directory).mp hnearest
  exact ⟨hholds, hfirst.first⟩

/-! ## The outcome of a search -/

/-- The report of a spoiled file names the file and what was being done to it. -/
theorem Spoiled.exists_report {path : Path} {failure : Failure}
    (hspoiled : Spoiled path file failure) :
    ∃ cause, failure.report = "reading " ++ path.text ++ ": " ++ cause ∨
      failure.report = "parsing " ++ path.text ++ ": " ++ cause := by
  cases hspoiled with
  | @reading error _ => exact ⟨error.message, Or.inl rfl⟩
  | @parsing text reason _ _ =>
      refine ⟨(ConfigError.document reason).message ++ ": " ++ reason, Or.inr ?_⟩
      rw [← String.append_assoc, ← String.append_assoc]
      rfl

theorem discover_of_nearest (hnearest : tree.Nearest cwd directory file) :
    tree.discover cwd =
      (tree.profileIn cwd directory).map fun profile => some (profile, directory) := by
  rw [discover, (nearest?_eq_some_iff tree cwd directory).mpr ⟨file, hnearest⟩]

/-- A search goes wrong or finds something only where there is a first file. -/
theorem discover_eq_none_or_nearest (tree : FileTree) (cwd : WorkingDirectory) :
    (tree.nearest? cwd = none ∧ tree.discover cwd = .ok none) ∨
      ∃ directory file, tree.Nearest cwd directory file := by
  cases hnearest : tree.nearest? cwd with
  | none => exact Or.inl ⟨rfl, by rw [discover, hnearest]⟩
  | some directory =>
      obtain ⟨file, hfirst⟩ := (nearest?_eq_some_iff tree cwd directory).mp hnearest
      exact Or.inr ⟨directory, file, hfirst⟩

theorem discover_eq_ok_none_iff (tree : FileTree) (cwd : WorkingDirectory) :
    tree.discover cwd = .ok none ↔
      ∀ n directory, cwd.path.above n = some directory →
        ∀ file, ¬ tree.HoldsConfig cwd directory file := by
  rw [← nearest?_eq_none_iff]
  rcases discover_eq_none_or_nearest tree cwd with ⟨hnone, hdiscover⟩ | ⟨_, _, hnearest⟩
  · exact iff_of_true hdiscover hnone
  · apply iff_of_false
    · rw [discover_of_nearest hnearest]
      cases tree.profileIn cwd _ <;> simp [Except.map]
    · rw [(nearest?_eq_some_iff _ _ _).mpr ⟨_, hnearest⟩]
      exact Option.some_ne_none _

theorem discover_eq_ok_some_iff (tree : FileTree) (cwd : WorkingDirectory) (profile : Profile)
    (directory : Path) :
    tree.discover cwd = .ok (some (profile, directory)) ↔
      ∃ file text, tree.Nearest cwd directory file ∧ file.read = .ok text ∧
        Profile.parse text = .ok profile := by
  constructor
  · intro hdiscover
    rcases discover_eq_none_or_nearest tree cwd with ⟨_, hnone⟩ | ⟨other, file, hnearest⟩
    · rw [hnone] at hdiscover
      simp at hdiscover
    · rw [discover_of_nearest hnearest] at hdiscover
      cases hprofile : tree.profileIn cwd other with
      | error failure => simp [hprofile, Except.map] at hdiscover
      | ok found =>
          simp only [hprofile, Except.map, Except.ok.injEq, Option.some.injEq,
            Prod.mk.injEq] at hdiscover
          obtain ⟨rfl, rfl⟩ := hdiscover
          obtain ⟨text, hread, hparse⟩ := (hnearest.holds.profileIn_eq_ok_iff found).mp hprofile
          exact ⟨file, text, hnearest, hread, hparse⟩
  · rintro ⟨file, text, hnearest, hread, hparse⟩
    rw [discover_of_nearest hnearest,
      (hnearest.holds.profileIn_eq_ok_iff profile).mpr ⟨text, hread, hparse⟩]
    rfl

theorem discover_eq_error_iff (tree : FileTree) (cwd : WorkingDirectory) (failure : Failure) :
    tree.discover cwd = .error failure ↔
      ∃ directory file, tree.Nearest cwd directory file ∧
        Spoiled (directory.child configFileName) file failure := by
  constructor
  · intro hdiscover
    rcases discover_eq_none_or_nearest tree cwd with ⟨_, hnone⟩ | ⟨directory, file, hnearest⟩
    · rw [hnone] at hdiscover
      contradiction
    · rw [discover_of_nearest hnearest] at hdiscover
      cases hprofile : tree.profileIn cwd directory with
      | ok profile => simp [hprofile, Except.map] at hdiscover
      | error other =>
          rw [hprofile] at hdiscover
          obtain rfl := Except.error.inj hdiscover
          exact ⟨directory, file, hnearest,
            (hnearest.holds.profileIn_eq_error_iff other).mp hprofile⟩
  · rintro ⟨directory, file, hnearest, hspoiled⟩
    rw [discover_of_nearest hnearest, (hnearest.holds.profileIn_eq_error_iff failure).mpr hspoiled]
    rfl

/-- The exact outcome of a search. It goes up from its directory, one dropped step after the other,
and this way has an end. Nothing is found just when no directory on it has a regular file of the
conventional name; otherwise the first such file alone decides: its profile is found if it can be
read and its text describes one, and if not, the search fails with a report that names this file.
-/
theorem discover_exact (tree : FileTree) (cwd : WorkingDirectory) :
    (∃ n, cwd.path.above n = none) ∧
    (tree.discover cwd = .ok none ↔
      ∀ n directory, cwd.path.above n = some directory →
        ∀ file, ¬ tree.HoldsConfig cwd directory file) ∧
    (∀ profile directory, tree.discover cwd = .ok (some (profile, directory)) ↔
      ∃ file text, tree.Nearest cwd directory file ∧ file.read = .ok text ∧
        Profile.parse text = .ok profile) ∧
    (∀ failure, tree.discover cwd = .error failure ↔
      ∃ directory file, tree.Nearest cwd directory file ∧
        Spoiled (directory.child configFileName) file failure) ∧
    (∀ path file failure, Spoiled path file failure →
      ∃ cause, failure.report = "reading " ++ path.text ++ ": " ++ cause ∨
        failure.report = "parsing " ++ path.text ++ ": " ++ cause) :=
  ⟨⟨_, cwd.path.above_length_upward⟩, discover_eq_ok_none_iff tree cwd,
    discover_eq_ok_some_iff tree cwd, discover_eq_error_iff tree cwd,
    fun _ _ _ hspoiled => hspoiled.exists_report⟩

/-- A directory of the conventional name is passed over, so is a file that a closed directory keeps
from being found, and a link that leads back to itself. A file that may not be read is not, though
there is one farther out that may. -/
example :
    let closed : Access := { search := false }
    let tree : FileTree := ⟨.directory [("bcc.toml", .file "triple = \"arm-none\"".toUTF8),
      ("work", .directory [("bcc.toml", .file .empty { read := false }),
        ("loop", .directory [("bcc.toml", .link ⟨"bcc.toml"⟩),
          ("box", .directory [("bcc.toml", .directory []),
            ("shut", .directory [("bcc.toml", .file .empty)] closed)])])])]⟩
    tree.discover ⟨⟨[], by simp⟩, ⟨"/work/loop/box/shut"⟩⟩ =
      .error (.during .reading ⟨"/work/bcc.toml"⟩ (.file .permissionDenied)) := by
  rfl

end FileTree

end TargetConfig
