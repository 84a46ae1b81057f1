import TargetConfig.Text

/-! # Splitting and joining

Splitting a text at a separator and joining the pieces again gives the text, whatever it holds. The
other way round it needs pieces without the separator, and at least one of them: no pieces and the
one empty piece make the same text. A cut is made where the first piece ends.
-/

namespace TargetConfig.Text

variable {sep : Char}

theorem split_ne_nil (s : List Char) : split sep s ≠ [] := by
  cases s with
  | nil => simp [split]
  | cons c s =>
      unfold split
      split
      · exact List.cons_ne_nil _ _
      · split <;> exact List.cons_ne_nil _ _

theorem split_cons_sep (s : List Char) : split sep (sep :: s) = [] :: split sep s := by
  simp [split]

/-- A character that does not separate goes to the front of the first piece. -/
theorem split_cons_of_ne {c : Char} (hne : c ≠ sep) (s : List Char) :
    ∃ piece pieces, split sep s = piece :: pieces ∧
      split sep (c :: s) = (c :: piece) :: pieces := by
  cases hsplit : split sep s with
  | nil => exact absurd hsplit (split_ne_nil s)
  | cons piece pieces => exact ⟨piece, pieces, rfl, by simp [split, hne, hsplit]⟩

theorem join_cons (piece : List Char) {pieces : List (List Char)} (hne : pieces ≠ []) :
    join sep (piece :: pieces) = piece ++ sep :: join sep pieces := by
  cases pieces with
  | nil => exact absurd rfl hne
  | cons next rest => rfl

theorem join_cons_cons (c : Char) (piece : List Char) (pieces : List (List Char)) :
    join sep ((c :: piece) :: pieces) = c :: join sep (piece :: pieces) := by
  cases pieces <;> rfl

theorem join_append {first second : List (List Char)} (hfirst : first ≠ [])
    (hsecond : second ≠ []) :
    join sep (first ++ second) = join sep first ++ sep :: join sep second := by
  induction first with
  | nil => exact absurd rfl hfirst
  | cons piece first ih =>
      by_cases hrest : first = []
      · subst hrest
        exact join_cons piece hsecond
      · rw [List.cons_append, join_cons piece (by simp [hrest]), join_cons piece hrest, ih hrest,
          List.append_assoc, List.cons_append]

theorem join_split (s : List Char) : join sep (split sep s) = s := by
  induction s with
  | nil => rfl
  | cons c s ih =>
      by_cases hsep : c = sep
      · subst hsep
        rw [split_cons_sep, join_cons [] (split_ne_nil s), ih, List.nil_append]
      · obtain ⟨piece, pieces, hsplit, hcons⟩ := split_cons_of_ne hsep s
        rw [hcons, join_cons_cons, ← hsplit, ih]

theorem not_mem_of_mem_split {s piece : List Char} (hpiece : piece ∈ split sep s) :
    sep ∉ piece := by
  induction s generalizing piece with
  | nil => simp_all [split]
  | cons c s ih =>
      by_cases hsep : c = sep
      · subst hsep
        rw [split_cons_sep] at hpiece
        rcases List.mem_cons.mp hpiece with rfl | hrest
        · exact List.not_mem_nil
        · exact ih hrest
      · -- only the first piece is new, and it is one character longer than before
        obtain ⟨first, rest, hsplit, hcons⟩ := split_cons_of_ne hsep s
        rw [hcons] at hpiece
        rw [hsplit] at ih
        rcases List.mem_cons.mp hpiece with rfl | hrest
        · have hfirst := ih List.mem_cons_self
          simp [Ne.symm hsep, hfirst]
        · exact ih (List.mem_cons_of_mem _ hrest)

theorem split_of_not_mem {piece : List Char} (hpiece : sep ∉ piece) :
    split sep piece = [piece] := by
  induction piece with
  | nil => rfl
  | cons c piece ih =>
      simp only [List.mem_cons, not_or] at hpiece
      simp [split, Ne.symm hpiece.1, ih hpiece.2]

/-- A separator cuts a text in two, each of which is split by itself. -/
theorem split_append_sep (first second : List Char) :
    split sep (first ++ sep :: second) = split sep first ++ split sep second := by
  induction first with
  | nil => exact split_cons_sep second
  | cons c first ih =>
      by_cases hsep : c = sep
      · subst hsep
        rw [List.cons_append, split_cons_sep, split_cons_sep, ih, List.cons_append]
      · obtain ⟨piece, pieces, hsplit, hcons⟩ := split_cons_of_ne hsep first
        rw [hcons]
        simp [split, hsep, ih, hsplit]

/-- Text without separators goes to the front of the first piece. -/
theorem split_append_left {front : List Char} (hfront : sep ∉ front) (s : List Char) :
    ∃ piece pieces, split sep s = piece :: pieces ∧
      split sep (front ++ s) = (front ++ piece) :: pieces := by
  induction front with
  | nil =>
      have hne : split sep s ≠ [] := split_ne_nil s
      obtain ⟨piece, pieces, hsplit⟩ := List.exists_cons_of_ne_nil hne
      exact ⟨piece, pieces, hsplit, hsplit⟩
  | cons c front ih =>
      simp only [List.mem_cons, not_or] at hfront
      obtain ⟨piece, pieces, hsplit, happend⟩ := ih hfront.2
      exact ⟨piece, pieces, hsplit, by simp [split, Ne.symm hfront.1, happend]⟩

/-- Text without separators goes to the end of the last piece. -/
theorem split_append_right {back : List Char} (hback : sep ∉ back) (s : List Char) :
    ∃ pieces piece, split sep s = pieces ++ [piece] ∧
      split sep (s ++ back) = pieces ++ [piece ++ back] := by
  induction s with
  | nil => exact ⟨[], [], rfl, split_of_not_mem hback⟩
  | cons c s ih =>
      obtain ⟨pieces, piece, hsplit, happend⟩ := ih
      by_cases hsep : c = sep
      · subst hsep
        refine ⟨[] :: pieces, piece, ?_, ?_⟩
        · rw [split_cons_sep, hsplit, List.cons_append]
        · rw [List.cons_append, split_cons_sep, happend, List.cons_append]
      · -- the character goes to the first piece, which may be the last one too
        cases pieces with
        | nil => exact ⟨[], c :: piece, by simp [split, hsep, hsplit], by simp [split, hsep, happend]⟩
        | cons first pieces =>
            exact ⟨(c :: first) :: pieces, piece, by simp [split, hsep, hsplit],
              by simp [split, hsep, happend]⟩

/-- Pieces that have separators in them come back as several. -/
theorem split_join_eq_flatMap {pieces : List (List Char)} (hne : pieces ≠ []) :
    split sep (join sep pieces) = pieces.flatMap (split sep) := by
  induction pieces with
  | nil => exact absurd rfl hne
  | cons piece rest ih =>
      by_cases hrest : rest = []
      · subst hrest
        simp [join]
      · rw [join_cons piece hrest, split_append_sep, ih hrest, List.flatMap_cons]

theorem split_join {pieces : List (List Char)} (hne : pieces ≠ [])
    (hpieces : ∀ piece ∈ pieces, sep ∉ piece) : split sep (join sep pieces) = pieces := by
  have hsplit : pieces.map (split sep) = pieces.map fun piece => [piece] := by
    apply List.map_congr_left
    intro piece hpiece
    exact split_of_not_mem (hpieces piece hpiece)
  rw [split_join_eq_flatMap hne, List.flatMap_def, hsplit, ← List.flatMap_def,
    List.flatMap_singleton']

theorem fst_cut (s : List Char) : (cut sep s).1 = s.takeWhile (· ≠ sep) := by
  induction s with
  | nil => rfl
  | cons c s ih =>
      by_cases hsep : c = sep
      · simp [cut, hsep]
      · simp [cut, hsep, ih]

end TargetConfig.Text
