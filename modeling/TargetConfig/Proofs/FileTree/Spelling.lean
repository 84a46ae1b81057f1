import TargetConfig.Proofs.FileTree.Trimmed
import TargetConfig.Proofs.FileTree.Ways

/-! # Spellings of a path

Two paths are alike if they differ in their dots and in how many slashes stand in one place. They
lead to the same place, unless one of them is too long to be followed at all.
-/

namespace TargetConfig

namespace Path

/-- The steps of a path that lead somewhere else. -/
def moves (path : Path) : List String := path.steps.filter (· ≠ ".")

/-- Two paths start alike and make the same moves. -/
structure Alike (first second : Path) : Prop where
  isAbsolute : first.isAbsolute = second.isAbsolute
  moves : first.moves = second.moves

theorem alike_trimmed (path : Path) : Alike path path.trimmed := by
  obtain ⟨_, ⟨dots, hsteps, hdots⟩, habsolute⟩ := path.padded_trimmed
  have hnone : dots.filter (· ≠ ".") = [] := by
    simpa using hdots
  refine ⟨habsolute.symm, ?_⟩
  rw [moves, moves, hsteps, List.filter_append, hnone, List.append_nil]

end Path

namespace FileTree

variable {tree : FileTree}

/-- A `.` makes no difference where a step comes after it: that takes a directory anyway. -/
theorem follow_dot (links : Nat) (location : Location) (step : String) (steps : List String)
    (slash : Bool) :
    tree.follow links location ("." :: step :: steps) slash =
      tree.follow links location (step :: steps) slash := by
  rw [follow_cons]
  cases hdirectory : tree.isDirectoryAt location with
  | false => simp [follow_cons, target, hdirectory, Except.bind]
  | true =>
      cases hsearch : (tree.accessAt location).search with
      | false => simp [follow_cons, target, hdirectory, hsearch, Except.bind]
      | true =>
          have hstay : tree.target location "." = .ok location := by
            simp [target, hdirectory, hsearch]
          obtain ⟨access, hoccupant⟩ := isDirectoryAt_iff.mp hdirectory
          simp only [hstay, Except.bind, hoccupant]

/-- A `.` further on makes no difference either, as long as a step comes after it. -/
theorem follow_append_dot (links : Nat) (location : Location) (first : List String)
    {second : List String} (hsecond : second ≠ []) (slash : Bool) :
    tree.follow links location (first ++ "." :: second) slash =
      tree.follow links location (first ++ second) slash := by
  -- a link may bring any number of steps, but leaves fewer links for them
  induction links using Nat.strongRecOn generalizing location first slash with
  | ind links hfewer =>
      induction first generalizing location with
      | nil =>
          obtain ⟨step, steps, rfl⟩ := List.exists_cons_of_ne_nil hsecond
          exact follow_dot links location step steps slash
      | cons step first ih =>
          rw [List.cons_append, List.cons_append, follow_cons, follow_cons]
          congr 1
          funext next
          split
          next path _ =>
            cases links with
            | zero => rfl
            | succ links =>
                have hempty : (first ++ "." :: second).isEmpty = (first ++ second).isEmpty := by
                  rw [Bool.eq_iff_iff]
                  simp [hsecond]
                simp only [followLink, hempty, ← List.append_assoc,
                  hfewer links (Nat.lt_succ_self links)]
          next => exact ih next
          next => simp [hsecond]

/-- Dots on the way to a name make no difference: wherever one stands, a step comes after it. -/
theorem follow_filter (links : Nat) (location : Location) (first steps : List String)
    (name : String) (slash : Bool) :
    tree.follow links location (first ++ (steps.filter (· ≠ ".") ++ [name])) slash =
      tree.follow links location (first ++ (steps ++ [name])) slash := by
  induction steps generalizing first with
  | nil => rfl
  | cons step steps ih =>
      by_cases hdot : step = "."
      · have hne : steps ++ [name] ≠ [] := List.append_ne_nil_of_right_ne_nil _ (by simp)
        rw [List.filter_cons_of_neg (by simp [hdot]), ih, hdot, List.cons_append,
          follow_append_dot links location first hne]
      · rw [List.filter_cons_of_pos (by simp [hdot])]
        simpa using ih (first ++ [step])

/-- The path without its end is no longer than it was, and starts from the same place. -/
theorem start_trimmed_child {place : Location} {path : Path} {name : String}
    (hname : IsName name) {origin : Location}
    (hstart : start place (path.child name) = .ok origin) :
    start place (path.trimmed.child name) = .ok origin := by
  obtain ⟨⟨tail, htext⟩, _, habsolute⟩ := path.padded_trimmed
  by_cases htail : tail = ""
  · have hpath : path.trimmed = path := by
      rw [htail, String.append_empty] at htext
      exact congrArg Path.mk htext.symm
    rwa [hpath]
  · obtain ⟨hnul, _, hsize, rfl⟩ := start_eq_ok_iff.mp hstart
    obtain ⟨before, hchild, _⟩ := path.text_child name
    obtain ⟨sep, htrimmed, hsep⟩ := path.trimmed.text_child name
    apply start_eq_ok_iff.mpr
    refine ⟨?_, ?_, ?_, ?_⟩
    · simp only [htrimmed, hchild, htext, String.toList_append, List.mem_append, not_or] at hnul ⊢
      refine ⟨⟨hnul.1.1.1, ?_⟩, hnul.2⟩
      rcases hsep with rfl | rfl <;> decide
    · rw [htrimmed, ne_eq, String.append_eq_empty_iff]
      exact fun hempty => hname.1 hempty.2
    · -- a slash before the name takes no more than the end that is left out
      have hpositive : 0 < tail.utf8ByteSize := by
        rw [Nat.pos_iff_ne_zero, ne_eq, String.utf8ByteSize_eq_zero_iff]
        exact htail
      have hone : sep.utf8ByteSize ≤ 1 := by
        rcases hsep with rfl | rfl <;> decide
      simp only [htrimmed, hchild, htext, String.utf8ByteSize_append] at hsize ⊢
      omega
    · rw [Path.isAbsolute_child _ hname, Path.isAbsolute_child _ hname, habsolute]

/-- The way to a name goes by the moves to its directory alone. -/
theorem follow_child_of_alike {first second : Path} (halike : first.Alike second) {name : String}
    (hname : IsName name) (links : Nat) (origin : Location) :
    tree.follow links origin (first.child name).steps (first.child name).endsInSlash =
      tree.follow links origin (second.child name).steps (second.child name).endsInSlash := by
  have hmoves : first.steps.filter (· ≠ ".") = second.steps.filter (· ≠ ".") := halike.moves
  have hfirst := tree.follow_filter links origin [] first.steps name false
  have hsecond := tree.follow_filter links origin [] second.steps name false
  rw [hmoves] at hfirst
  simp only [Path.steps_child _ hname, Path.endsInSlash_child _ hname]
  exact hfirst.symm.trans hsecond

/-- A name is found by every spelling of the directory that can be followed at all. -/
theorem locate_child_of_alike {place : Directory} {first second : Path}
    (halike : first.Alike second) {name : String} (hname : IsName name) {location origin : Location}
    (hstart : start place.names (second.child name) = .ok origin)
    (hlocate : tree.locate place (first.child name) = .ok location) :
    tree.locate place (second.child name) = .ok location := by
  have hother : start place.names (first.child name) = .ok origin := by
    obtain ⟨other, _, hother, _⟩ := locate_eq_ok_iff.mp hlocate
    obtain ⟨_, _, _, rfl⟩ := start_eq_ok_iff.mp hstart
    rw [hother]
    obtain ⟨_, _, _, rfl⟩ := start_eq_ok_iff.mp hother
    rw [Path.isAbsolute_child _ hname, Path.isAbsolute_child _ hname, halike.isAbsolute]
  rw [← hlocate]
  simp only [locate, hstart, hother, bind, Except.bind,
    follow_child_of_alike halike hname linkLimit origin]

/-- An absolute path leads to the same place from everywhere. -/
theorem locate_eq_of_isAbsolute {path : Path} (habsolute : path.isAbsolute = true) (tree : FileTree)
    (first second : Directory) : tree.locate first path = tree.locate second path := by
  unfold locate start
  rw [habsolute]
  rfl

end FileTree

end TargetConfig
