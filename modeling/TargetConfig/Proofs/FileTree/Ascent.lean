import TargetConfig.Proofs.FileTree.Trimmed

/-! # Going up from a path

Going up drops the last step of a path again and again, until there is no step left to drop. The
directories that one comes by are those around the path, from the innermost on.
-/

namespace TargetConfig.Path

/-- The path that the first segments of a path make, given the last of them first, without slashes
and dots at its end. -/
def withoutPadding (path : Path) (segments : List String) : Path :=
  match dropPadding segments with
  | [] => path.origin
  | kept => ofSegments kept.reverse

/-- The path without its last step, and without the slashes and dots on both sides of this step.
There is none if the path has no step. -/
def pop? (path : Path) : Option Path :=
  match dropPadding path.segments.reverse with
  | [] => none
  | _ :: before => some (path.withoutPadding before)

/-- The path after so many steps have been dropped, if it has as many. -/
def above (path : Path) : Nat → Option Path
  | 0 => some path
  | n + 1 => path.pop?.bind fun outer => outer.above n

theorem upward_origin (path : Path) : path.origin.upward = [path.origin] := by
  unfold origin
  split <;> rfl

/-- The way up from a beginning of a path comes by the levels in it. -/
theorem upward_withoutPadding {path : Path} {first rest : List String}
    (hsegments : path.segments = first ++ rest) :
    (path.withoutPadding first.reverse).upward =
      (path.origin :: (levels [] first).map ofSegments).reverse := by
  rcases levels_eq_nil_or_endsInLevel first with ⟨_, hnone, hempty⟩ | ⟨init, level, padding, hends⟩
  · simp [withoutPadding, hempty, hnone, upward_origin]
  · have hfirst : path.segments = init ++ [level] ++ (padding ++ rest) := by
      rw [hsegments, hends.eq_append, List.append_assoc]
    have houter : path.withoutPadding first.reverse = ofSegments (init ++ [level]) := by
      simp [withoutPadding, hends.dropPadding]
    have hlevels : levels [] (init ++ [level]) = levels [] first := by
      rw [levels_concat, hends.isLevel, if_pos rfl, hends.levels]
    have horigin : (ofSegments (init ++ [level])).origin = path.origin := by
      rw [origin, origin, isAbsolute_ofSegments hfirst hends.ne_empty]
    rw [houter, upward, parents, segments_ofSegments_of_append hfirst (by simp), hlevels, horigin,
      hends.levels, List.map_append, List.map_singleton, ← List.cons_append, List.dropLast_concat,
      List.reverse_append]
    rfl

/-- The directories around a path are the one that it lies in and those around that. -/
theorem parents_eq (path : Path) :
    path.parents =
      match path.pop? with
      | none => []
      | some outer => outer.upward := by
  rcases levels_eq_nil_or_endsInLevel path.segments with
    ⟨_, hnone, hempty⟩ | ⟨init, level, rest, hends⟩
  · simp [parents, pop?, hnone, hempty]
  · have hpop : path.pop? = some (path.withoutPadding init.reverse) := by
      simp [pop?, hends.dropPadding]
    have hsegments := hends.eq_append
    rw [List.append_assoc] at hsegments
    rw [hpop, parents, hends.levels, List.map_append, List.map_singleton, ← List.cons_append,
      List.dropLast_concat]
    exact (upward_withoutPadding hsegments).symm

/-- The way up is made one dropped step after the other. -/
theorem getElem?_upward (path : Path) (n : Nat) : path.upward[n]? = path.above n := by
  induction n generalizing path with
  | zero => rfl
  | succ n ih =>
      rw [upward, List.getElem?_cons_succ, parents_eq, above]
      cases path.pop? with
      | none => rfl
      | some outer => exact ih outer

/-- Every way up has an end. -/
theorem above_length_upward (path : Path) : path.above path.upward.length = none := by
  rw [← getElem?_upward]
  exact List.getElem?_eq_none (Nat.le_refl _)

/-- A dropped step takes the slashes and dots around it along; what stands in front is not read. -/
example : pop? ⟨"/work/../box/./sub//"⟩ = some ⟨"/work/../box"⟩ ∧ pop? ⟨"/work"⟩ = some ⟨"/"⟩ ∧
    pop? ⟨"/."⟩ = none ∧ pop? ⟨"./."⟩ = some ⟨""⟩ := by
  decide +kernel

end TargetConfig.Path
