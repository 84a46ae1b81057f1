import TargetConfig.Proofs.Text.Pieces

/-! # Splitting at the first separators

`splitAtMost` splits a text at its first separators, up to a number of them; what comes after these
stays in one piece. Joining gives the text again, and no other pieces of this kind do.
-/

namespace TargetConfig.Text

variable {sep : Char}

theorem cut_of_not_mem {s : List Char} (hsep : sep ∉ s) : cut sep s = (s, none) := by
  induction s with
  | nil => rfl
  | cons c s ih =>
      simp only [List.mem_cons, not_or] at hsep
      simp [cut, Ne.symm hsep.1, ih hsep.2]

theorem cut_append {piece : List Char} (hpiece : sep ∉ piece) (rest : List Char) :
    cut sep (piece ++ sep :: rest) = (piece, some rest) := by
  induction piece with
  | nil => simp [cut]
  | cons c piece ih =>
      simp only [List.mem_cons, not_or] at hpiece
      simp [cut, Ne.symm hpiece.1, ih hpiece.2]

/-- A text has no separator, or it is cut at its first one. -/
theorem not_mem_or_eq_append (sep : Char) (s : List Char) :
    sep ∉ s ∨ ∃ piece rest, sep ∉ piece ∧ s = piece ++ sep :: rest := by
  by_cases hsep : sep ∈ s
  · obtain ⟨piece, rest, hs, hpiece⟩ := List.eq_append_cons_of_mem hsep
    exact Or.inr ⟨piece, rest, hpiece, hs⟩
  · exact Or.inl hsep

/-- The pieces of a text between its first separators, at most as many of these as the number says,
and the rest of the text behind them. -/
def splitAtMost (sep : Char) : Nat → List Char → List (List Char)
  | 0, s => [s]
  | n + 1, s =>
    match cut sep s with
    | (piece, none) => [piece]
    | (piece, some rest) => piece :: splitAtMost sep n rest

theorem splitAtMost_of_not_mem (n : Nat) {s : List Char} (hsep : sep ∉ s) :
    splitAtMost sep n s = [s] := by
  cases n with
  | zero => rfl
  | succ n => rw [splitAtMost, cut_of_not_mem hsep]

theorem splitAtMost_append (n : Nat) {piece : List Char} (hpiece : sep ∉ piece)
    (rest : List Char) :
    splitAtMost sep (n + 1) (piece ++ sep :: rest) = piece :: splitAtMost sep n rest := by
  rw [splitAtMost, cut_append hpiece]

/-! ## What the pieces are -/

theorem length_splitAtMost (n : Nat) (s : List Char) :
    (splitAtMost sep n s).length = min (s.count sep) n + 1 := by
  induction n generalizing s with
  | zero => simp [splitAtMost]
  | succ n ih =>
      rcases not_mem_or_eq_append sep s with hsep | ⟨piece, rest, hpiece, rfl⟩
      · simp [splitAtMost_of_not_mem (n + 1) hsep, List.count_eq_zero_of_not_mem hsep]
      · simp [splitAtMost_append n hpiece, ih, List.count_eq_zero_of_not_mem hpiece,
          Nat.add_min_add_right]

theorem splitAtMost_ne_nil (n : Nat) (s : List Char) : splitAtMost sep n s ≠ [] := by
  rw [← List.length_pos_iff, length_splitAtMost]
  exact Nat.succ_pos _

theorem join_splitAtMost (n : Nat) (s : List Char) : join sep (splitAtMost sep n s) = s := by
  induction n generalizing s with
  | zero => rfl
  | succ n ih =>
      rcases not_mem_or_eq_append sep s with hsep | ⟨piece, rest, hpiece, rfl⟩
      · rw [splitAtMost_of_not_mem (n + 1) hsep, join]
      · rw [splitAtMost_append n hpiece, join_cons piece (splitAtMost_ne_nil n rest), ih]

/-- Only the piece behind the last cut can have separators in it. -/
theorem not_mem_of_mem_take {n : Nat} {s piece : List Char}
    (hpiece : piece ∈ (splitAtMost sep n s).take n) : sep ∉ piece := by
  induction n generalizing s with
  | zero => simp at hpiece
  | succ n ih =>
      rcases not_mem_or_eq_append sep s with hsep | ⟨first, rest, hfirst, rfl⟩
      · rw [splitAtMost_of_not_mem (n + 1) hsep] at hpiece
        obtain rfl := List.mem_singleton.mp (List.mem_of_mem_take hpiece)
        exact hsep
      · rw [splitAtMost_append n hfirst, List.take_succ_cons, List.mem_cons] at hpiece
        rcases hpiece with rfl | hrest
        · exact hfirst
        · exact ih hrest

/-- The piece behind the last cut has all separators that are left. -/
theorem count_of_getElem?_splitAtMost {n : Nat} {s piece : List Char}
    (hpiece : (splitAtMost sep n s)[n]? = some piece) :
    s.count sep = n + piece.count sep := by
  induction n generalizing s with
  | zero =>
      obtain rfl : s = piece := by simpa [splitAtMost] using hpiece
      rw [Nat.zero_add]
  | succ n ih =>
      rcases not_mem_or_eq_append sep s with hsep | ⟨first, rest, hfirst, rfl⟩
      · simp [splitAtMost_of_not_mem (n + 1) hsep] at hpiece
      · rw [splitAtMost_append n hfirst, List.getElem?_cons_succ] at hpiece
        rw [List.count_append, List.count_eq_zero_of_not_mem hfirst, List.count_cons_self,
          ih hpiece]
        omega

/-- Pieces are found again in the text that they make, if only what lies behind the last cut has
separators in it. -/
theorem splitAtMost_join {n : Nat} {pieces : List (List Char)} (hne : pieces ≠ [])
    (hlength : pieces.length ≤ n + 1) (hpieces : ∀ piece ∈ pieces.take n, sep ∉ piece) :
    splitAtMost sep n (join sep pieces) = pieces := by
  induction n generalizing pieces with
  | zero =>
      obtain ⟨piece, rfl⟩ := List.length_eq_one_iff.mp
        (Nat.le_antisymm hlength (List.length_pos_iff.mpr hne))
      rfl
  | succ n ih =>
      obtain ⟨piece, rest, rfl⟩ := List.exists_cons_of_ne_nil hne
      have hpiece : sep ∉ piece := hpieces piece List.mem_cons_self
      by_cases hrest : rest = []
      · subst hrest
        exact splitAtMost_of_not_mem (n + 1) hpiece
      · have htail : splitAtMost sep n (join sep rest) = rest := by
          apply ih hrest (by simpa using hlength)
          exact fun other hother => hpieces other (List.mem_cons_of_mem piece hother)
        rw [join_cons piece hrest, splitAtMost_append n hpiece, htail]

end TargetConfig.Text
