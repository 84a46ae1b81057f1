import TargetConfig.Discovery

/-! # The search for the nearest file

The search goes up from the working directory and stops at the first directory with a file of the
conventional name. What lies beyond that directory is not looked at.
-/

namespace TargetConfig

/-- The beginning of a list that a search looks at: up to the first hit, or all of it. -/
def lookedAt {α : Type} (hit : α → Bool) : List α → List α
  | [] => []
  | a :: rest => a :: if hit a then [] else lookedAt hit rest

/-- A search that gives the same answers up to the first hit has the same first hit. -/
theorem find?_congr_lookedAt {α : Type} {first second : α → Bool} {list : List α}
    (hsame : ∀ a ∈ lookedAt first list, first a = second a) :
    list.find? first = list.find? second := by
  induction list with
  | nil => rfl
  | cons a rest ih =>
      rw [List.find?_cons, List.find?_cons, ← hsame a List.mem_cons_self]
      cases hhit : first a with
      | true => rfl
      | false =>
          apply ih
          intro other hother
          apply hsame
          simp [lookedAt, hhit, hother]

theorem isName_configFileName : IsName configFileName := by decide +kernel

namespace FileTree

/-- The directories that are looked into, from the working directory up to the nearest one with a
file of the conventional name. -/
def lookedInto (tree : FileTree) (cwd : WorkingDirectory) : List Path :=
  lookedAt (fun directory => tree.containsFile cwd.place (directory.child configFileName))
    cwd.path.upward

theorem nearest?_eq_some {tree : FileTree} {cwd : WorkingDirectory} {nearer farther : List Path}
    {directory : Path} (hupward : cwd.path.upward = nearer ++ directory :: farther)
    (hnearer : ∀ other ∈ nearer,
      tree.containsFile cwd.place (other.child configFileName) = false)
    (hfile : tree.containsFile cwd.place (directory.child configFileName) = true) :
    tree.nearest? cwd = some directory := by
  have hnone : nearer.find? (fun other =>
      tree.containsFile cwd.place (other.child configFileName)) = none := by
    simpa using hnearer
  rw [nearest?, hupward, List.find?_append, hnone, Option.none_or, List.find?_cons, hfile]

theorem nearest?_congr {first second : FileTree} {cwd : WorkingDirectory}
    (hfiles : ∀ directory ∈ first.lookedInto cwd,
      first.containsFile cwd.place (directory.child configFileName) =
        second.containsFile cwd.place (directory.child configFileName)) :
    first.nearest? cwd = second.nearest? cwd :=
  find?_congr_lookedAt hfiles

/-- What is found depends on which of the directories looked into have a file, and on what the
nearest of these files reads as. -/
theorem discover_congr {first second : FileTree} {cwd : WorkingDirectory}
    (hfiles : ∀ directory ∈ first.lookedInto cwd,
      first.containsFile cwd.place (directory.child configFileName) =
        second.containsFile cwd.place (directory.child configFileName))
    (hread : ∀ directory, first.nearest? cwd = some directory →
      first.read cwd.place (directory.child configFileName) =
        second.read cwd.place (directory.child configFileName)) :
    first.discover cwd = second.discover cwd := by
  unfold discover
  rw [← nearest?_congr hfiles]
  cases hnearest : first.nearest? cwd with
  | none => rfl
  | some directory =>
      have hprofile : first.profileIn cwd directory = second.profileIn cwd directory := by
        unfold profileIn
        dsimp only
        rw [hread directory hnearest]
      dsimp only
      rw [hprofile]

theorem load_congr {first second : FileTree} {cwd : WorkingDirectory} {path : Path}
    (hcontains : first.contains cwd.place path = second.contains cwd.place path)
    (hread : first.read cwd.place path = second.read cwd.place path) :
    first.load cwd path = second.load cwd path := by
  unfold load loadProfile
  rw [hcontains, hread]

end FileTree

end TargetConfig
