import TargetConfig.Proofs.Registry.Backends
import TargetConfig.Proofs.Request.Resolution

/-! # Registries with some of the backends

A registry for some architectures is the full registry without the others: it finds what the full
one finds, for its architectures, and nothing else. The same holds of whole requests. With fewer
backends a request is resolved to the same configuration or its triple becomes unsupported, and
every other failure comes before the lookup and stays as it is.
-/

namespace TargetConfig

namespace Registry

/-- A registry has the backends of the given architectures, as the full registry has them. -/
structure Part (archs : List Arch) (part : Registry) : Prop where
  lookup : ∀ triple, part.lookup triple =
    if archOf triple ∈ archs ∧ archOf triple ≠ .unknown then full.lookup triple else none
  /-- A handle leads back to the backend of its architecture, in this registry and in each other one
  that has this backend. -/
  backend : ∀ triple handle, part.lookup triple = some handle →
    ∃ backend ∈ full.backends, backend.arch = archOf triple ∧
      part.backend? handle = some backend ∧
      ∀ others, (only others).backend? handle =
        if archOf triple ∈ others then some backend else none
  targets_sublist : part.targets.Sublist full.targets
  mem_targets : ∀ backend ∈ full.backends,
    (backend.name, backend.description) ∈ part.targets ↔ backend.arch ∈ archs
  targets_congr : ∀ others, (∀ arch, arch ∈ others ↔ arch ∈ archs) →
    (only others).targets = part.targets
  length_targets : part.targets.length = part.backends.length
  length : part.backends.length = (archs.toFinset.erase .unknown).card

theorem part_only (archs : List Arch) : Part archs (only archs) where
  lookup := lookup_only archs
  backend := by
    intro triple handle hlookup
    obtain ⟨backend, hmem, harch, hlinked, rfl⟩ :=
      (lookup_only_eq_some_iff archs triple handle).mp hlookup
    have hothers := fun others => backend?_only others hmem triple
    simp only [harch] at hothers
    exact ⟨backend, hmem, harch, by rw [hothers, if_pos hlinked], hothers⟩
  targets_sublist := targets_only_sublist archs
  mem_targets _ hmem := mem_targets_only_iff archs hmem
  targets_congr := by
    intro others hsame
    rw [only_congr hsame]
  length_targets := List.length_map _
  length := length_only archs

end Registry

namespace Request

/-- Of an effective profile, a registry for some architectures makes what the full one makes of it,
unless it lacks the backend. -/
theorem settle_only (request : Request) (archs : List Arch) (profile : Profile) :
    request.settle (Registry.only archs).lookup profile =
      (request.settle Registry.full.lookup profile).bind fun config =>
        if archOf config.triple ∈ archs then .ok config
        else .error (.target (.unsupportedTriple config.triple)) := by
  unfold settle
  rw [Registry.lookup_only]
  by_cases hissues : featureIssues profile.features = []
  · rw [if_pos hissues, if_pos hissues]
    cases hfull : Registry.full.lookup profile.triple with
    | none => simp [Except.bind]
    | some handle =>
        -- a backend is found, so the architecture is known, and only its place in the list counts
        have hknown := (Registry.isSome_lookup_full_iff profile.triple).mp (by rw [hfull]; rfl)
        have htriple : (request.resolved profile handle).triple = profile.triple := rfl
        by_cases hlinked : archOf profile.triple ∈ archs
        · simp [Except.bind, htriple, hlinked, hknown]
        · simp [Except.bind, htriple, hlinked]
  · rw [if_neg hissues, if_neg hissues]
    rfl

theorem resolve_only (request : Request) (archs : List Arch) (tree : FileTree)
    (cwd : WorkingDirectory) :
    (request.resolve (Registry.only archs).lookup tree cwd).result =
      (request.resolve Registry.full.lookup tree cwd).result.bind fun config =>
        if archOf config.triple ∈ archs then .ok config
        else .error (.target (.unsupportedTriple config.triple)) := by
  rw [result_resolve, result_resolve]
  cases (request.profile tree cwd).result with
  | error failure => rfl
  | ok profile => exact settle_only request archs profile

theorem arch_of_resolve {request : Request} {lookup : String → Option Handle} {tree : FileTree}
    {cwd : WorkingDirectory} {config : Config}
    (hresolve : (request.resolve lookup tree cwd).result = .ok config) :
    config.arch = some (archOf config.triple) := by
  obtain ⟨_, _, _, _, _, _, _, rfl⟩ := (resolve_eq_ok_iff request lookup tree cwd config).mp hresolve
  rfl

/-- The outcome of a request with the full registry decides its outcome with the backends of some
architectures only. -/
structure Restricted (archs : List Arch) (full part : Except Failure Config) : Prop where
  linked : ∀ config, full = .ok config → (∃ arch ∈ archs, config.arch = some arch) →
    part = .ok config
  unlinked : ∀ config, full = .ok config → (¬ ∃ arch ∈ archs, config.arch = some arch) →
    part = .error (.target (.unsupportedTriple config.triple))
  failed : ∀ failure, full = .error failure → part = .error failure

theorem restricted_resolve (request : Request) (archs : List Arch) (tree : FileTree)
    (cwd : WorkingDirectory) :
    Restricted archs (request.resolve Registry.full.lookup tree cwd).result
      (request.resolve (Registry.only archs).lookup tree cwd).result := by
  rw [resolve_only]
  constructor
  case linked =>
    rintro config hfull ⟨arch, hlinked, harch⟩
    obtain rfl : archOf config.triple = arch :=
      Option.some.inj ((arch_of_resolve hfull).symm.trans harch)
    rw [hfull, Except.bind, if_pos hlinked]
  case unlinked =>
    intro config hfull hunlinked
    have hnot : archOf config.triple ∉ archs := fun hmem =>
      hunlinked ⟨_, hmem, arch_of_resolve hfull⟩
    rw [hfull, Except.bind, if_neg hnot]
  case failed =>
    intro failure hfull
    rw [hfull, Except.bind]

end Request

namespace Registry

/-- The registry for some architectures refines the full one, by itself and under every request. -/
theorem only_refines_full (archs : List Arch) :
    Part archs (only archs) ∧ Part Arch.all full ∧
      (∀ triple, (full.lookup triple).isSome ↔ archOf triple ≠ .unknown) ∧
      ∀ (request : Request) (tree : FileTree) (cwd : WorkingDirectory),
        Request.Restricted archs (request.resolve full.lookup tree cwd).result
          (request.resolve (only archs).lookup tree cwd).result := by
  refine ⟨part_only archs, ?_, isSome_lookup_full_iff, ?_⟩
  · rw [full_eq_only]
    exact part_only Arch.all
  · intro request tree cwd
    exact request.restricted_resolve archs tree cwd

/-- An architecture given twice counts once and the unknown one not at all; a request that the full
registry resolves is resolved for a linked architecture and refused for another. -/
theorem only_refines_full_arm :
    let part := only [.thumb, .unknown, .arm, .thumb]
    let root : WorkingDirectory := ⟨⟨[], by simp⟩, ⟨"/"⟩⟩
    let linked : Request := { triple := some "armv7a-none-eabi" }
    let foreign : Request := { triple := some "x86_64-pc-linux" }
    part.backends.length = 2 ∧
      (only [.arm, .thumb, .unknown]).targets = part.targets ∧
      part.lookup "armv7a-none-eabi" = full.lookup "armv7a-none-eabi" ∧
      (linked.resolve part.lookup ⟨.directory []⟩ root).result =
        (linked.resolve full.lookup ⟨.directory []⟩ root).result ∧
      (foreign.resolve full.lookup ⟨.directory []⟩ root).result.isOk ∧
      (foreign.resolve part.lookup ⟨.directory []⟩ root).result =
        .error (.target (.unsupportedTriple "x86_64-pc-linux")) := by
  intro part root linked foreign
  obtain ⟨hpart, _, _, hrestricted⟩ := only_refines_full [.thumb, .unknown, .arm, .thumb]
  have hlinked : (linked.resolve full.lookup ⟨.directory []⟩ root).result =
      .ok { triple := "armv7a-none-eabi", featureString := "+vfp3,+neon",
            target := some ⟨"arm", "ARM", "armv7a-none-eabi"⟩, arch := some .arm } := by
    decide +kernel
  have hforeign : (foreign.resolve full.lookup ⟨.directory []⟩ root).result =
      .ok { triple := "x86_64-pc-linux",
            target := some ⟨"x86-64", "64-bit X86: EM64T and AMD64", "x86_64-pc-linux"⟩,
            arch := some .x86_64 } := by
    decide +kernel
  refine ⟨hpart.length.trans (by decide), ?_, ?_, ?_, ?_, ?_⟩
  · apply hpart.targets_congr
    intro arch
    cases arch <;> decide
  · rw [hpart.lookup, if_pos (by decide +kernel)]
  · rw [hlinked]
    exact (hrestricted linked _ root).linked _ hlinked ⟨.arm, by decide, rfl⟩
  · rw [hforeign]
    rfl
  · exact (hrestricted foreign _ root).unlinked _ hforeign (by decide)

end Registry

end TargetConfig
