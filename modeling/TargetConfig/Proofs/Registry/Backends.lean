import Mathlib.Data.Finset.Dedup
import Mathlib.Data.Finset.Card
import TargetConfig.Backend

/-! # Finding backends

The table of backends has two keys. A lookup goes by the architecture of a triple, and a handle is
followed back by the name of its backend. Both keys are unique, and every known architecture has a
backend, so a handle leads back to the backend that the lookup found, in each registry that has it.
-/

namespace TargetConfig

/-- In a table without repeated keys, a search for a key finds the entry that has it. -/
theorem find?_key_eq_some_iff {α κ : Type} [DecidableEq κ] {key : α → κ} {table : List α}
    (hkeys : (table.map key).Nodup) (k : κ) (entry : α) :
    table.find? (fun other => key other = k) = some entry ↔ entry ∈ table ∧ key entry = k := by
  constructor
  · intro hfind
    exact ⟨List.mem_of_find?_eq_some hfind, by simpa using List.find?_some hfind⟩
  · rintro ⟨hmem, hkey⟩
    cases hfind : table.find? (fun other => key other = k) with
    | none =>
        have hnot := List.find?_eq_none.mp hfind entry hmem
        exact absurd hkey (by simpa using hnot)
    | some other =>
        have hother : key other = k := by simpa using List.find?_some hfind
        have heq : other = entry :=
          List.inj_on_of_nodup_map hkeys (List.mem_of_find?_eq_some hfind) hmem
            (hother.trans hkey.symm)
        rw [heq]

theorem Arch.mem_all (arch : Arch) : arch ∈ Arch.all := by
  cases arch <;> decide

namespace Backend

theorem nodup_archs : (all.map arch).Nodup := by decide

theorem nodup_names : (all.map name).Nodup := by decide

/-- The known architectures are those with a backend. -/
theorem exists_arch_iff (arch : Arch) :
    (∃ backend ∈ all, backend.arch = arch) ↔ arch ≠ .unknown := by
  cases arch <;> decide

theorem arch_ne_unknown {backend : Backend} (hmem : backend ∈ all) : backend.arch ≠ .unknown :=
  (exists_arch_iff backend.arch).mp ⟨backend, hmem, rfl⟩

theorem eq_of_arch_eq {backend other : Backend} (hmem : backend ∈ all) (hother : other ∈ all)
    (harch : backend.arch = other.arch) : backend = other :=
  List.inj_on_of_nodup_map nodup_archs hmem hother harch

theorem eq_of_name_eq {backend other : Backend} (hmem : backend ∈ all) (hother : other ∈ all)
    (hname : backend.name = other.name) : backend = other :=
  List.inj_on_of_nodup_map nodup_names hmem hother hname

/-- What a lookup of a triple hands out for a backend. -/
def handle (backend : Backend) (triple : String) : Handle :=
  ⟨backend.name, backend.description, triple⟩

end Backend

namespace Registry

theorem full_eq_only : full = only Arch.all := rfl

theorem mem_only_iff (archs : List Arch) (backend : Backend) :
    backend ∈ (only archs).backends ↔ backend ∈ Backend.all ∧ backend.arch ∈ archs := by
  simp [only]

theorem only_sublist (archs : List Arch) : (only archs).backends.Sublist Backend.all :=
  List.filter_sublist

theorem nodup_archs_only (archs : List Arch) : ((only archs).backends.map Backend.arch).Nodup :=
  Backend.nodup_archs.sublist ((only_sublist archs).map _)

theorem nodup_names_only (archs : List Arch) : ((only archs).backends.map Backend.name).Nodup :=
  Backend.nodup_names.sublist ((only_sublist archs).map _)

/-! ## Lookups -/

/-- A lookup finds the backend of the architecture that the triple names, if it is linked in. -/
theorem lookup_only_eq_some_iff (archs : List Arch) (triple : String) (handle : Handle) :
    (only archs).lookup triple = some handle ↔
      ∃ backend ∈ Backend.all, backend.arch = archOf triple ∧ archOf triple ∈ archs ∧
        backend.handle triple = handle := by
  unfold lookup
  dsimp only
  split
  next hunknown =>
    constructor
    · intro hnone
      contradiction
    · rintro ⟨backend, hmem, harch, _⟩
      exact absurd (harch.trans hunknown) (Backend.arch_ne_unknown hmem)
  next =>
    simp only [Option.map_eq_some_iff, find?_key_eq_some_iff (nodup_archs_only archs),
      mem_only_iff]
    constructor
    · rintro ⟨backend, ⟨⟨hmem, hlinked⟩, harch⟩, hhandle⟩
      exact ⟨backend, hmem, harch, harch ▸ hlinked, hhandle⟩
    · rintro ⟨backend, hmem, harch, hlinked, hhandle⟩
      exact ⟨backend, ⟨⟨hmem, harch.symm ▸ hlinked⟩, harch⟩, hhandle⟩

theorem lookup_full_eq_some_iff (triple : String) (handle : Handle) :
    full.lookup triple = some handle ↔
      ∃ backend ∈ Backend.all, backend.arch = archOf triple ∧ backend.handle triple = handle := by
  simp only [full_eq_only, lookup_only_eq_some_iff, Arch.mem_all, true_and]

theorem isSome_lookup_full_iff (triple : String) :
    (full.lookup triple).isSome ↔ archOf triple ≠ .unknown := by
  rw [← Backend.exists_arch_iff, Option.isSome_iff_exists]
  simp only [lookup_full_eq_some_iff]
  constructor
  · rintro ⟨_, backend, hmem, harch, _⟩
    exact ⟨backend, hmem, harch⟩
  · rintro ⟨backend, hmem, harch⟩
    exact ⟨_, backend, hmem, harch, rfl⟩

/-- A registry for some architectures finds what the full one finds for them, and nothing else. -/
theorem lookup_only (archs : List Arch) (triple : String) :
    (only archs).lookup triple =
      if archOf triple ∈ archs ∧ archOf triple ≠ .unknown then full.lookup triple else none := by
  apply Option.ext
  intro handle
  rw [lookup_only_eq_some_iff]
  split
  next hlinked =>
    rw [lookup_full_eq_some_iff]
    simp only [hlinked.1, true_and]
  next hunlinked =>
    constructor
    · rintro ⟨backend, hmem, harch, hlinked, _⟩
      have hknown : archOf triple ≠ .unknown := harch ▸ Backend.arch_ne_unknown hmem
      exact absurd ⟨hlinked, hknown⟩ hunlinked
    · intro hnone
      contradiction

/-- A handle leads to the backend of its name, in the registries that have it. -/
theorem backend?_only (archs : List Arch) {backend : Backend} (hmem : backend ∈ Backend.all)
    (triple : String) :
    (only archs).backend? (backend.handle triple) =
      if backend.arch ∈ archs then some backend else none := by
  apply Option.ext
  intro other
  unfold backend?
  rw [find?_key_eq_some_iff (nodup_names_only archs), mem_only_iff]
  constructor
  · rintro ⟨⟨hother, hlinked⟩, hname⟩
    have heq : other = backend := Backend.eq_of_name_eq hother hmem hname
    rw [← heq, if_pos hlinked]
  · intro hsome
    split at hsome
    next hlinked =>
      obtain rfl := Option.some.inj hsome
      exact ⟨⟨hmem, hlinked⟩, rfl⟩
    next => contradiction

/-! ## What a registry lists -/

theorem targets_only_sublist (archs : List Arch) :
    (only archs).targets.Sublist full.targets :=
  (only_sublist archs).map _

theorem mem_targets_only_iff (archs : List Arch) {backend : Backend}
    (hmem : backend ∈ Backend.all) :
    (backend.name, backend.description) ∈ (only archs).targets ↔ backend.arch ∈ archs := by
  unfold targets
  rw [List.mem_map]
  constructor
  · rintro ⟨other, hother, hpair⟩
    rw [mem_only_iff] at hother
    -- the name alone decides which backend it is
    have heq : other = backend := Backend.eq_of_name_eq hother.1 hmem (congrArg Prod.fst hpair)
    exact heq ▸ hother.2
  · intro hlinked
    exact ⟨backend, (mem_only_iff archs backend).mpr ⟨hmem, hlinked⟩, rfl⟩

/-- Only which architectures are given counts, not their order or how often. -/
theorem only_congr {archs others : List Arch} (hsame : ∀ arch, arch ∈ archs ↔ arch ∈ others) :
    only archs = only others := by
  unfold only
  congr 1
  apply List.filter_congr
  intro backend _
  simp [hsame]

/-- There is one backend for each of the known architectures that are given. -/
theorem length_only (archs : List Arch) :
    (only archs).backends.length = (archs.toFinset.erase .unknown).card := by
  have harchs : ((only archs).backends.map Backend.arch).toFinset =
      archs.toFinset.erase .unknown := by
    ext arch
    simp only [List.mem_toFinset, List.mem_map, mem_only_iff, Finset.mem_erase,
      ← Backend.exists_arch_iff]
    constructor
    · rintro ⟨backend, ⟨hmem, hlinked⟩, rfl⟩
      exact ⟨⟨backend, hmem, rfl⟩, hlinked⟩
    · rintro ⟨⟨backend, hmem, rfl⟩, hlinked⟩
      exact ⟨backend, ⟨hmem, hlinked⟩, rfl⟩
  rw [← harchs, List.toFinset_card_of_nodup (nodup_archs_only archs), List.length_map]

end Registry

end TargetConfig
