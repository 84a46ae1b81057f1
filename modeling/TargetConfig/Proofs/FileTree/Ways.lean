import TargetConfig.Proofs.FileTree.Places

/-! # Ways through a file tree

Following a path is a way made of single steps: each leads on to what is at its end, and where a
link stands the way goes on along the path of the link. Only at its very end may there be nothing.
What was found on a way before a file tree gained something is found on it afterwards.
-/

namespace TargetConfig.FileTree

/-- From a place, steps lead to an arrival, with no more links on the way than the given number. -/
inductive Leads (tree : FileTree) : Nat → Location → List String → Bool → Arrival → Prop
  | done (links : Nat) (location : Location) (slash : Bool) :
      Leads tree links location [] slash ⟨location, slash⟩
  | nothing {links : Nat} {location next : Location} {step : String} {slash : Bool}
      (htarget : tree.target location step = .ok next) (hnone : tree.occupant? next = none) :
      Leads tree links location [step] slash ⟨next, slash⟩
  | step {links : Nat} {location next : Location} {step : String} {steps : List String}
      {slash : Bool} {occupant : Occupant} {arrival : Arrival}
      (htarget : tree.target location step = .ok next)
      (hoccupant : tree.occupant? next = some occupant)
      (hplain : ∀ path, occupant ≠ .link path)
      (hrest : Leads tree links next steps slash arrival) :
      Leads tree links location (step :: steps) slash arrival
  | link {links : Nat} {location next origin : Location} {step : String} {steps : List String}
      {slash : Bool} {path : Path} {arrival : Arrival}
      (htarget : tree.target location step = .ok next)
      (hlink : tree.occupant? next = some (.link path))
      (hstart : start location path = .ok origin)
      (hrest : Leads tree links origin (path.steps ++ steps)
        (slash || steps.isEmpty && path.endsInSlash) arrival) :
      Leads tree (links + 1) location (step :: steps) slash arrival

variable {tree : FileTree} {links : Nat} {location : Location} {steps : List String} {slash : Bool}
  {arrival : Arrival}

/-! ## Following links -/

/-- Following a link, if one more is allowed. -/
def followLink (tree : FileTree) (links : Nat) (parent : Location) (path : Path)
    (rest : List String) (slash : Bool) : Except FileError Arrival :=
  match links with
  | 0 => .error .tooManyLinks
  | links + 1 => do
    let origin ← start parent path
    tree.follow links origin (path.steps ++ rest) (slash || rest.isEmpty && path.endsInSlash)

theorem follow_nil (tree : FileTree) (links : Nat) (location : Location) (slash : Bool) :
    tree.follow links location [] slash = .ok ⟨location, slash⟩ := by
  cases links <;> rfl

/-- One step of following, by what is at its end. -/
theorem follow_cons (tree : FileTree) (links : Nat) (location : Location) (step : String)
    (steps : List String) (slash : Bool) :
    tree.follow links location (step :: steps) slash =
      (tree.target location step).bind fun next =>
        match tree.occupant? next with
        | some (.link path) => tree.followLink links location path steps slash
        | some _ => tree.follow links next steps slash
        | none => if steps.isEmpty then .ok ⟨next, slash⟩ else .error .noSuchEntry := by
  cases links <;> rw [follow, advance] <;> cases tree.target location step with
  | error error => rfl
  | ok next =>
      simp only [bind, Except.bind, occupant?, Option.map]
      cases tree.root.get? next with
      | none => cases steps <;> rfl
      | some node => cases node <;> rfl

theorem followLink_eq_ok_iff {parent : Location} {path : Path} {rest : List String} :
    tree.followLink links parent path rest slash = .ok arrival ↔
      ∃ fewer origin, links = fewer + 1 ∧ start parent path = .ok origin ∧
        tree.follow fewer origin (path.steps ++ rest) (slash || rest.isEmpty && path.endsInSlash) =
          .ok arrival := by
  cases links with
  | zero => simp [followLink]
  | succ links => simp [followLink, bind, Attempt.bind_eq_ok_iff]

theorem leads_of_follow (hfollow : tree.follow links location steps slash = .ok arrival) :
    tree.Leads links location steps slash arrival := by
  -- after a link the way is longer, but there are fewer links to come
  induction links using Nat.strongRecOn generalizing location steps slash with
  | ind links hfewer =>
      induction steps generalizing location with
      | nil =>
          rw [follow_nil] at hfollow
          obtain rfl := Except.ok.inj hfollow
          exact .done links location slash
      | cons step steps ih =>
          rw [follow_cons] at hfollow
          obtain ⟨next, htarget, hfollow⟩ := Attempt.bind_eq_ok_iff.mp hfollow
          split at hfollow
          next path hlink =>
            obtain ⟨fewer, origin, rfl, hstart, hrest⟩ := followLink_eq_ok_iff.mp hfollow
            exact .link htarget hlink hstart (hfewer fewer (Nat.lt_succ_self fewer) hrest)
          next occupant hplain hoccupant =>
            exact .step htarget hoccupant (fun path heq => hplain path (heq ▸ rfl)) (ih hfollow)
          next hnone =>
            split at hfollow
            next hlast =>
              obtain rfl := Except.ok.inj hfollow
              rw [List.isEmpty_iff.mp hlast]
              exact .nothing htarget hnone
            next => contradiction

theorem follow_of_leads (hleads : tree.Leads links location steps slash arrival) :
    tree.follow links location steps slash = .ok arrival := by
  induction hleads with
  | done links location slash => exact follow_nil tree links location slash
  | nothing htarget hnone => simp [follow_cons, htarget, Except.bind, hnone]
  | step htarget hoccupant hplain _ ih =>
      rw [follow_cons, htarget]
      simp only [Except.bind, hoccupant]
      exact ih
  | link htarget hlink hstart _ ih =>
      rw [follow_cons, htarget]
      simp only [Except.bind, hlink]
      exact followLink_eq_ok_iff.mpr ⟨_, _, rfl, hstart, ih⟩

theorem follow_eq_ok_iff :
    tree.follow links location steps slash = .ok arrival ↔
      tree.Leads links location steps slash arrival :=
  ⟨leads_of_follow, follow_of_leads⟩

/-! ## Looking up a path -/

theorem start_eq_ok_iff {place : Location} {path : Path} {origin : Location} :
    start place path = .ok origin ↔
      '\x00' ∉ path.text.toList ∧ path.text ≠ "" ∧ path.text.utf8ByteSize ≤ pathLimit ∧
        origin = if path.isAbsolute then [] else place := by
  unfold start
  split
  next hnul => simp_all
  next hnul =>
    split
    next hempty => simp_all
    next hempty =>
      split
      next hlong => simp only [reduceCtorEq, false_iff]; omega
      next hshort =>
        rw [List.contains_iff_mem] at hnul
        rw [String.isEmpty_iff] at hempty
        simp only [Except.ok.injEq]
        exact ⟨fun heq => ⟨hnul, hempty, by omega, heq.symm⟩, fun h => h.2.2.2.symm⟩

/-- A path is found at the end of the way that it stands for, if something is there, and a directory
if that is asked for. -/
theorem locate_eq_ok_iff {place : Directory} {path : Path} :
    tree.locate place path = .ok location ↔
      ∃ origin slash, start place.names path = .ok origin ∧
        tree.Leads linkLimit origin path.steps path.endsInSlash ⟨location, slash⟩ ∧
        tree.occupant? location ≠ none ∧ (slash = true → tree.isDirectoryAt location = true) := by
  simp only [locate, bind, Attempt.bind_eq_ok_iff, follow_eq_ok_iff]
  constructor
  · rintro ⟨origin, hstart, ⟨there, slash⟩, hleads, hlocate⟩
    split at hlocate
    next => contradiction
    next hthere =>
      split at hlocate
      next => contradiction
      next hslash =>
        obtain rfl := Except.ok.inj hlocate
        exact ⟨origin, slash, hstart, hleads, mt isNone_get?_iff.mpr hthere, by simpa using hslash⟩
  · rintro ⟨origin, slash, hstart, hleads, hthere, hslash⟩
    refine ⟨origin, hstart, ⟨location, slash⟩, hleads, ?_⟩
    rw [if_neg (mt isNone_get?_iff.mp hthere), if_neg (by simpa using hslash)]
    rfl

/-! ## Trees that gain something -/

namespace Keeps

variable {before after : FileTree}

/-- A way is still there, unless a link now stands at its end where nothing was. -/
theorem leads (hkeeps : Keeps before after)
    (hleads : before.Leads links location steps slash arrival)
    (hend : ∀ path, after.occupant? arrival.location = some (.link path) →
      before.occupant? arrival.location ≠ none) :
    after.Leads links location steps slash arrival := by
  induction hleads with
  | done links location slash => exact .done links location slash
  | @nothing links location next step slash htarget hnone =>
      have hafter := hkeeps.target htarget
      cases hoccupant : after.occupant? next with
      | none => exact .nothing hafter hoccupant
      | some occupant =>
          have hplain : ∀ path, occupant ≠ .link path := by
            rintro path rfl
            exact hend path hoccupant hnone
          exact .step hafter hoccupant hplain (.done links next slash)
  | step htarget hoccupant hplain _ ih =>
      exact .step (hkeeps.target htarget) (hkeeps _ _ hoccupant) hplain (ih hend)
  | link htarget hlink hstart _ ih =>
      exact .link (hkeeps.target htarget) (hkeeps _ _ hlink) hstart (ih hend)

theorem locate (hkeeps : Keeps before after) {place : Directory} {path : Path}
    (hlocate : before.locate place path = .ok location) :
    after.locate place path = .ok location := by
  obtain ⟨origin, slash, hstart, hleads, hthere, hslash⟩ := locate_eq_ok_iff.mp hlocate
  apply locate_eq_ok_iff.mpr
  exact ⟨origin, slash, hstart, hkeeps.leads hleads fun _ _ => hthere,
    hkeeps.occupant?_ne_none hthere, fun hends => hkeeps.isDirectoryAt (hslash hends)⟩

end Keeps

/-! ## Reading -/

theorem read_eq_of_occupant? {place : Directory} {path : Path} {occupant : Occupant}
    (hlocate : tree.locate place path = .ok location)
    (hoccupant : tree.occupant? location = some occupant) :
    tree.read place path = occupant.read := by
  have haccess : tree.accessAt location = occupant.access := by
    rw [accessAt_eq, hoccupant]
    rfl
  obtain ⟨node, hnode, rfl⟩ := Option.map_eq_some_iff.mp hoccupant
  simp only [read, hlocate, bind, Except.bind, haccess, hnode, Occupant.read]
  cases node <;> rfl

/-- What is read is the text of what the path leads to. -/
theorem read_eq_ok_iff {place : Directory} {path : Path} {text : String} :
    tree.read place path = .ok text ↔
      ∃ location occupant, tree.locate place path = .ok location ∧
        tree.occupant? location = some occupant ∧ occupant.read = .ok text := by
  constructor
  · intro hread
    cases hlocate : tree.locate place path with
    | error error => simp [read, hlocate, bind, Except.bind] at hread
    | ok location =>
        obtain ⟨_, _, _, _, hthere, _⟩ := locate_eq_ok_iff.mp hlocate
        obtain ⟨occupant, hoccupant⟩ := Option.ne_none_iff_exists'.mp hthere
        rw [read_eq_of_occupant? hlocate hoccupant] at hread
        exact ⟨location, occupant, rfl, hoccupant, hread⟩
  · rintro ⟨location, occupant, hlocate, hoccupant, hread⟩
    rw [read_eq_of_occupant? hlocate hoccupant, hread]

theorem fromUTF8?_toUTF8 (text : String) : String.fromUTF8? text.toUTF8 = some text := by
  rw [String.fromUTF8?, String.toUTF8_eq_toByteArray, dif_pos text.isValidUTF8]
  rfl

theorem read_of_occupant? {place : Directory} {path : Path} {text : String}
    (hlocate : tree.locate place path = .ok location)
    (hfile : tree.occupant? location = some (.file text.toUTF8)) :
    tree.read place path = .ok text := by
  rw [read_eq_of_occupant? hlocate hfile]
  simp only [Occupant.read, fromUTF8?_toUTF8]
  rfl

theorem Keeps.read {before after : FileTree} (hkeeps : Keeps before after) {place : Directory}
    {path : Path} {text : String} (hread : before.read place path = .ok text) :
    after.read place path = .ok text := by
  obtain ⟨location, occupant, hlocate, hoccupant, htext⟩ := read_eq_ok_iff.mp hread
  exact read_eq_ok_iff.mpr
    ⟨location, occupant, hkeeps.locate hlocate, hkeeps _ _ hoccupant, htext⟩

end TargetConfig.FileTree
