import TargetConfig.Proofs.FileTree.Ways

/-! # Writing new files

A file that is written to a path that led nowhere is the only thing that changes in the tree: it is
at a place where nothing was, and the path leads to it from then on.
-/

namespace TargetConfig.FileTree

/-- A tree with one more file, at a place where nothing was. -/
structure Added (before : FileTree) (location : Location) (content : ByteArray)
    (after : FileTree) : Prop where
  unoccupied : before.occupant? location = none
  occupant? : ∀ other, after.occupant? other =
    if other = location then some (.file content) else before.occupant? other

theorem Added.keeps {before after : FileTree} {location : Location} {content : ByteArray}
    (hadded : Added before location content after) : Keeps before after := by
  intro other occupant hbefore
  have hne : other ≠ location := by
    rintro rfl
    exact absurd (hadded.unoccupied.symm.trans hbefore) (Option.some_ne_none _).symm
  rw [hadded.occupant?, if_neg hne, hbefore]

/-- A place that can be written to is at the end of the way that the path stands for. -/
theorem leads_of_writeLocation {tree : FileTree} {place : Directory} {path : Path}
    {location : Location} (hplace : tree.writeLocation place path = .ok location) :
    ∃ origin, start place.names path = .ok origin ∧ path.steps ≠ [] ∧
      tree.Leads linkLimit origin path.steps path.endsInSlash ⟨location, false⟩ := by
  simp only [writeLocation, bind, Attempt.bind_eq_ok_iff] at hplace
  obtain ⟨origin, hstart, hplace⟩ := hplace
  split at hplace
  next => contradiction
  next name hlast =>
    split at hplace
    next =>
      obtain ⟨_, _, hrefused⟩ := Attempt.bind_eq_ok_iff.mp hplace
      contradiction
    next hslash =>
      obtain ⟨⟨there, slash⟩, hfollow, hplace⟩ := Attempt.bind_eq_ok_iff.mp hplace
      split at hplace
      next => contradiction
      next hplain =>
        obtain rfl : slash = false := by
          rw [Bool.or_eq_true, not_or, Bool.not_eq_true] at hplain
          exact hplain.1
        have hsteps : path.steps ≠ [] := by
          rintro hnone
          simp [hnone] at hlast
        split at hplace
        next => contradiction
        next =>
          split at hplace
          next => contradiction
          next =>
            obtain rfl := Except.ok.inj hplace
            refine ⟨origin, hstart, hsteps, ?_⟩
            rw [Bool.not_eq_true] at hslash
            rw [hslash]
            exact leads_of_follow hfollow

/-- A way that ends where nothing is ends with a name in a directory. -/
theorem Leads.exists_parent {tree : FileTree} {links : Nat} {location : Location}
    {steps : List String} {slash : Bool} {arrival : Arrival}
    (hleads : tree.Leads links location steps slash arrival)
    (hbegin : steps ≠ [] ∨ tree.occupant? location ≠ none)
    (hnone : tree.occupant? arrival.location = none) :
    ∃ parent name, arrival.location = parent ++ [name] ∧ tree.isDirectoryAt parent = true := by
  induction hleads with
  | done links location slash => exact absurd hnone (hbegin.resolve_left (by simp))
  | @nothing links location next step slash htarget _ =>
      have hplain : tree.isDirectoryAt next = false := by
        rw [← Bool.not_eq_true, isDirectoryAt_iff]
        simp [hnone]
      exact ⟨location, step, eq_append_of_target htarget hplain, isDirectoryAt_of_target htarget⟩
  | step _ hoccupant _ _ ih => exact ih (Or.inr (by simp [hoccupant])) hnone
  | @link links location next origin step steps slash path arrival htarget _ hstart _ ih =>
      -- a link is followed from its directory or from the root, and both are there
      have hthere : tree.occupant? origin ≠ none := by
        obtain ⟨_, _, _, rfl⟩ := start_eq_ok_iff.mp hstart
        split
        next => simp [occupant?, FileNode.get?]
        next =>
          obtain ⟨access, hdirectory⟩ := isDirectoryAt_iff.mp (isDirectoryAt_of_target htarget)
          simp [hdirectory]
      exact ih (Or.inr hthere) hnone

theorem contains_eq_false_iff {tree : FileTree} {place : Directory} {path : Path} :
    tree.contains place path = false ↔ ∀ location, tree.locate place path ≠ .ok location := by
  unfold contains
  cases tree.locate place path <;> simp

/-- Whether a write succeeds does not depend on what is written. -/
theorem exists_write_iff {tree : FileTree} {place : Directory} {path : Path} (text : String) :
    (∃ after, tree.write place path text = .ok after) ↔
      ∃ location, tree.writeLocation place path = .ok location := by
  simp only [write, bind, Attempt.bind_eq_ok_iff]
  constructor
  · rintro ⟨_, location, hplace, _⟩
    exact ⟨location, hplace⟩
  · rintro ⟨location, hplace⟩
    exact ⟨_, location, hplace, rfl⟩

/-- Writing to a path that leads nowhere adds one file, and nothing else changes. -/
theorem write_added {tree after : FileTree} {place : Directory} {path : Path} {text : String}
    (hfree : tree.contains place path = false)
    (hwrite : tree.write place path text = .ok after) :
    ∃ location, Added tree location text.toUTF8 after ∧
      after.locate place path = .ok location := by
  simp only [write, bind, Attempt.bind_eq_ok_iff] at hwrite
  obtain ⟨location, hplace, hwrite⟩ := hwrite
  obtain rfl := Except.ok.inj hwrite
  obtain ⟨origin, hstart, hsteps, hleads⟩ := leads_of_writeLocation hplace
  have hnone : tree.occupant? location = none := by
    apply Classical.byContradiction
    intro hthere
    apply contains_eq_false_iff.mp hfree location
    exact locate_eq_ok_iff.mpr ⟨origin, false, hstart, hleads, hthere, by simp⟩
  obtain ⟨parent, name, rfl, hparent⟩ := hleads.exists_parent (Or.inl hsteps) hnone
  obtain ⟨entries, access, hentries⟩ := exists_entries_of_isDirectoryAt hparent
  have haccess : tree.accessAt (parent ++ [name]) = {} := by
    rw [accessAt_eq, hnone]
    rfl
  have hadded : Added tree (parent ++ [name]) text.toUTF8
      ⟨FileNode.set (.file text.toUTF8 {}) (parent ++ [name]) tree.root⟩ := by
    refine ⟨hnone, ?_⟩
    rw [occupant?, Option.map_eq_none_iff] at hnone
    exact FileNode.occupant_get?_set hentries hnone text.toUTF8
  rw [haccess]
  refine ⟨parent ++ [name], hadded, ?_⟩
  -- the way to the new file was there before, and now it ends at the file
  have hfile := (hadded.occupant? (parent ++ [name])).trans (if_pos rfl)
  apply locate_eq_ok_iff.mpr
  refine ⟨origin, false, hstart, hadded.keeps.leads hleads ?_, ?_, by simp⟩
  · intro other hlink
    exact absurd (hfile.symm.trans hlink) (by simp)
  · rw [hfile]
    exact Option.some_ne_none _

/-- The text of a new file can be read by every path that leads to it. -/
theorem Added.read {before after : FileTree} {location : Location} {text : String}
    (hadded : Added before location text.toUTF8 after) {place : Directory} {path : Path}
    (hlocate : after.locate place path = .ok location) : after.read place path = .ok text := by
  apply read_of_occupant? hlocate
  rw [hadded.occupant?, if_pos rfl]

end TargetConfig.FileTree
