import TargetConfig.Proofs.Request.Attempts

/-! # Places in a file tree

What a file tree shows is what there is at each place: a file with its bytes, a directory, a link,
or nothing. What a step does depends on nothing else. A file that is written where nothing was
changes this at its own place only.
-/

namespace TargetConfig

/-- What there can be at a place. The entries of a directory are at places of their own. -/
inductive Occupant where
  | file (content : ByteArray) (access : Access := {})
  | directory (access : Access := {})
  | link (path : Path)

namespace Occupant

def access : Occupant → Access
  | file _ access | directory access => access
  | link _ => {}

/-- The text of what is there, if it may be read and has one. -/
def read (occupant : Occupant) : Except FileError String :=
  if !occupant.access.read then .error .permissionDenied
  else
    match occupant with
    | file content _ =>
      match String.fromUTF8? content with
      | some text => .ok text
      | none => .error .notUtf8
    | directory _ => .error .isDirectory
    | link _ => .error .tooManyLinks

end Occupant

namespace FileNode

def occupant : FileNode → Occupant
  | file content access => .file content access
  | directory _ access => .directory access
  | link path => .link path

theorem get?_append (node : FileNode) (first second : List String) :
    node.get? (first ++ second) = (node.get? first).bind (·.get? second) := by
  induction first generalizing node with
  | nil => rfl
  | cons name first ih =>
      cases node with
      | file content access => rfl
      | link path => rfl
      | directory entries access =>
          simp only [List.cons_append, get?]
          cases entries.lookup name with
          | none => rfl
          | some next => exact ih next

theorem lookup_cons_eq (name : String) (entry : String × FileNode)
    (entries : List (String × FileNode)) :
    (entry :: entries).lookup name =
      if name = entry.1 then some entry.2 else entries.lookup name := by
  rw [List.lookup_cons]
  by_cases hname : name = entry.1
  · simp [hname]
  · simp [hname, beq_false_of_ne hname]

theorem lookup_setEntry (name other : String) (node : FileNode)
    (entries : List (String × FileNode)) :
    (setEntry name node entries).lookup other =
      if other = name then some node else entries.lookup other := by
  induction entries with
  | nil => exact lookup_cons_eq other (name, node) []
  | cons entry entries ih =>
      unfold setEntry
      split
      next hentry =>
        -- the entry is replaced, so it does not count for any other name
        rw [lookup_cons_eq, lookup_cons_eq, hentry]
        split <;> rfl
      next hentry =>
        rw [lookup_cons_eq, lookup_cons_eq, ih]
        by_cases hother : other = entry.1
        · rw [if_pos hother, if_pos hother, if_neg fun hname => hentry (hother.symm.trans hname)]
        · rw [if_neg hother, if_neg hother]

/-- A new file in a directory that has no entry of its name. Above it there are the directories that
there were, and nothing is below it. -/
theorem occupant_get?_set {node : FileNode} {parent : List String}
    {entries : List (String × FileNode)} {access : Access} {name : String}
    (hparent : node.get? parent = some (.directory entries access))
    (hnone : node.get? (parent ++ [name]) = none) (content : ByteArray) (other : List String) :
    ((set (.file content) (parent ++ [name]) node).get? other).map occupant =
      if other = parent ++ [name] then some (.file content)
      else (node.get? other).map occupant := by
  induction parent generalizing node other with
  | nil =>
      obtain rfl := Option.some.inj hparent
      cases other with
      | nil => rfl
      | cons first rest =>
          simp only [List.nil_append, set, get?, lookup_setEntry, List.cons.injEq]
          by_cases hfirst : first = name
          · subst hfirst
            simp only [List.nil_append, get?] at hnone
            cases hentry : entries.lookup first with
            | some next => simp [hentry] at hnone
            | none => cases rest <;> simp [get?, occupant]
          · simp [hfirst]
  | cons step parent ih =>
      cases node with
      | file bytes access => contradiction
      | link path => contradiction
      | directory siblings access =>
          simp only [get?] at hparent
          cases hstep : siblings.lookup step with
          | none => simp [hstep] at hparent
          | some next =>
              simp only [hstep] at hparent
              simp only [List.cons_append, get?, hstep] at hnone
              cases other with
              | nil => rfl
              | cons first rest =>
                  simp only [List.cons_append, set, get?, lookup_setEntry, hstep, Option.getD_some,
                    List.cons.injEq]
                  by_cases hfirst : first = step
                  · subst hfirst
                    simpa [hstep] using ih hparent hnone rest
                  · simp [hfirst]

end FileNode

namespace FileTree

/-- What there is at a place of a tree. -/
def occupant? (tree : FileTree) (location : Location) : Option Occupant :=
  (tree.root.get? location).map FileNode.occupant

theorem isDirectoryAt_iff {tree : FileTree} {location : Location} :
    tree.isDirectoryAt location = true ↔
      ∃ access, tree.occupant? location = some (.directory access) := by
  unfold isDirectoryAt occupant?
  cases tree.root.get? location with
  | none => simp
  | some node => cases node <;> simp [FileNode.isDirectory, FileNode.occupant]

theorem isFileAt_iff {tree : FileTree} {location : Location} :
    tree.isFileAt location = true ↔
      ∃ content access, tree.occupant? location = some (.file content access) := by
  unfold isFileAt occupant?
  cases tree.root.get? location with
  | none => simp
  | some node => cases node <;> simp [FileNode.isFile, FileNode.occupant]

theorem accessAt_eq (tree : FileTree) (location : Location) :
    tree.accessAt location = ((tree.occupant? location).map Occupant.access).getD {} := by
  unfold accessAt occupant?
  cases tree.root.get? location with
  | none => rfl
  | some node => cases node <;> rfl

theorem exists_entries_of_isDirectoryAt {tree : FileTree} {location : Location}
    (hdirectory : tree.isDirectoryAt location = true) :
    ∃ entries access, tree.root.get? location = some (.directory entries access) := by
  unfold isDirectoryAt at hdirectory
  cases hnode : tree.root.get? location with
  | none => simp [hnode] at hdirectory
  | some node =>
      cases node with
      | file content access => simp [hnode, FileNode.isDirectory] at hdirectory
      | link path => simp [hnode, FileNode.isDirectory] at hdirectory
      | directory entries access => exact ⟨entries, access, rfl⟩

theorem isNone_get?_iff {tree : FileTree} {location : Location} :
    (tree.root.get? location).isNone = true ↔ tree.occupant? location = none := by
  rw [occupant?, Option.map_eq_none_iff, Option.isNone_iff_eq_none]

/-- A directory lies in a directory, or is the root. -/
theorem isDirectoryAt_dropLast {tree : FileTree} {location : Location}
    (hdirectory : tree.isDirectoryAt location = true) :
    tree.isDirectoryAt location.dropLast = true := by
  rcases List.eq_nil_or_concat location with rfl | ⟨parent, name, rfl⟩
  · exact hdirectory
  · rw [List.concat_eq_append] at hdirectory ⊢
    obtain ⟨entries, access, hnode⟩ := exists_entries_of_isDirectoryAt hdirectory
    rw [FileNode.get?_append] at hnode
    rw [List.dropLast_concat, isDirectoryAt]
    cases hparent : tree.root.get? parent with
    | none => simp [hparent] at hnode
    | some node =>
        cases node with
        | file content access => simp [hparent, FileNode.get?] at hnode
        | link path => simp [hparent, FileNode.get?] at hnode
        | directory siblings access => rfl

/-! ## Single steps -/

theorem target_congr {first second : FileTree} {location : Location}
    (hoccupant : first.occupant? location = second.occupant? location) (step : String) :
    first.target location step = second.target location step := by
  have hdirectory : first.isDirectoryAt location = second.isDirectoryAt location := by
    rw [Bool.eq_iff_iff, isDirectoryAt_iff, isDirectoryAt_iff, hoccupant]
  have haccess : first.accessAt location = second.accessAt location := by
    rw [accessAt_eq, accessAt_eq, hoccupant]
  simp only [target, hdirectory, haccess]

/-- A step is taken from a directory that may be searched. -/
theorem enterable_of_target {tree : FileTree} {location next : Location} {step : String}
    (htarget : tree.target location step = .ok next) :
    tree.isDirectoryAt location = true ∧ (tree.accessAt location).search = true := by
  unfold target at htarget
  split at htarget
  next => contradiction
  next hdirectory =>
    split at htarget
    next => contradiction
    next hsearch => exact ⟨by simpa using hdirectory, by simpa using hsearch⟩

theorem isDirectoryAt_of_target {tree : FileTree} {location next : Location} {step : String}
    (htarget : tree.target location step = .ok next) : tree.isDirectoryAt location = true :=
  (enterable_of_target htarget).1

/-- A step that does not lead to a directory goes to a name in the directory that it starts from. -/
theorem eq_append_of_target {tree : FileTree} {parent location : Location} {name : String}
    (htarget : tree.target parent name = .ok location)
    (hplain : tree.isDirectoryAt location = false) : location = parent ++ [name] := by
  obtain ⟨hparent, hsearch⟩ := enterable_of_target htarget
  simp only [target, hparent, hsearch, Bool.not_true, Bool.false_eq_true, if_false] at htarget
  split at htarget
  next =>
    obtain rfl := Except.ok.inj htarget
    exact absurd (hparent.symm.trans hplain) (by decide)
  next =>
    split at htarget
    next =>
      obtain rfl := Except.ok.inj htarget
      exact absurd ((isDirectoryAt_dropLast hparent).symm.trans hplain) (by decide)
    next =>
      split at htarget
      next => contradiction
      next => exact (Except.ok.inj htarget).symm

/-! ## Trees that keep what another one has -/

/-- A tree has everything that another one has, as it was. -/
def Keeps (before after : FileTree) : Prop :=
  ∀ location occupant, before.occupant? location = some occupant →
    after.occupant? location = some occupant

namespace Keeps

variable {before after : FileTree}

theorem refl (tree : FileTree) : Keeps tree tree := fun _ _ => id

theorem trans {later : FileTree} (hfirst : Keeps before after) (hsecond : Keeps after later) :
    Keeps before later :=
  fun location occupant hbefore => hsecond location occupant (hfirst location occupant hbefore)

theorem isDirectoryAt (hkeeps : Keeps before after) {location : Location}
    (hdirectory : before.isDirectoryAt location = true) :
    after.isDirectoryAt location = true := by
  obtain ⟨access, hoccupant⟩ := isDirectoryAt_iff.mp hdirectory
  exact isDirectoryAt_iff.mpr ⟨access, hkeeps _ _ hoccupant⟩

theorem occupant?_ne_none (hkeeps : Keeps before after) {location : Location}
    (hthere : before.occupant? location ≠ none) : after.occupant? location ≠ none := by
  obtain ⟨occupant, hoccupant⟩ := Option.ne_none_iff_exists'.mp hthere
  rw [hkeeps _ _ hoccupant]
  exact Option.some_ne_none occupant

theorem target (hkeeps : Keeps before after) {location next : Location} {step : String}
    (htarget : before.target location step = .ok next) :
    after.target location step = .ok next := by
  obtain ⟨access, hoccupant⟩ := isDirectoryAt_iff.mp (isDirectoryAt_of_target htarget)
  rw [← htarget]
  exact target_congr ((hkeeps _ _ hoccupant).trans hoccupant.symm) step

end Keeps

end FileTree

end TargetConfig
