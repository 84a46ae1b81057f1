import TargetConfig.Proofs.Config.History
import TargetConfig.Proofs.Registry.Backends
import TargetConfig.Summary

/-! # The backend of a configuration belongs to its triple

As long as backends are only looked up in builtin registries, a configuration never holds a backend
for another architecture or another triple, however often lookups succeed and fail in between. What
is shown of the architecture depends on the triple alone.
-/

namespace TargetConfig

/-- A registry that can be built: it has all backends, or those of some architectures. -/
def Registry.IsBuiltin (registry : Registry) : Prop :=
  registry = Registry.full ∨ ∃ archs, registry = Registry.only archs

/-- A handle for a triple that names the one backend there is for the architecture of the triple. -/
structure Handle.BelongsTo (handle : Handle) (triple : String) : Prop where
  triple_eq : handle.triple = triple
  backend : ∃ backend ∈ Backend.all, backend.arch = archOf triple ∧
    (∀ other ∈ Backend.all, other.arch = archOf triple → other = backend) ∧
    handle.name = backend.name ∧ handle.description = backend.description

theorem Handle.belongsTo_of_mem {backend : Backend} (hmem : backend ∈ Backend.all)
    {triple : String} (harch : backend.arch = archOf triple) :
    (backend.handle triple).BelongsTo triple := by
  refine ⟨rfl, backend, hmem, harch, ?_, rfl, rfl⟩
  intro other hother hotherArch
  exact Backend.eq_of_arch_eq hother hmem (hotherArch.trans harch.symm)

theorem Registry.IsBuiltin.exists_backend {registry : Registry} (hbuiltin : registry.IsBuiltin)
    {triple : String} {handle : Handle} (hlookup : registry.lookup triple = some handle) :
    ∃ backend ∈ Backend.all, backend.arch = archOf triple ∧ backend.handle triple = handle := by
  rcases hbuiltin with rfl | ⟨archs, rfl⟩
  · exact (Registry.lookup_full_eq_some_iff triple handle).mp hlookup
  · obtain ⟨backend, hmem, harch, _, hhandle⟩ :=
      (Registry.lookup_only_eq_some_iff archs triple handle).mp hlookup
    exact ⟨backend, hmem, harch, hhandle⟩

theorem Arch.isSome_pointerWidth_iff (arch : Arch) :
    arch.pointerWidth.isSome ↔ arch ≠ .unknown := by
  cases arch <;> decide

namespace Config

/-- If an operation looks a backend up, it does so in a builtin registry. -/
def Operation.UsesBuiltin (operation : Operation) : Prop :=
  ∀ lookup, operation.lookup? = some lookup →
    ∃ registry : Registry, registry.IsBuiltin ∧ lookup = registry.lookup

/-- What a configuration knows about its backend and its architecture fits its triple. -/
structure Coherent (triple : String) (config : Config) : Prop where
  triple_kept : config.triple = triple
  arch : config.arch = none ∨ config.arch = some (archOf triple)
  target : ∀ handle, config.target = some handle →
    config.arch = some (archOf triple) ∧ archOf triple ≠ .unknown ∧ handle.BelongsTo triple

theorem coherent_new (triple : String) : Coherent triple (new triple) := by
  refine ⟨rfl, Or.inl rfl, ?_⟩
  intro handle htarget
  contradiction

/-- A lookup replaces architecture and backend together; no other operation touches either. -/
theorem Coherent.step {triple : String} {config : Config} (hcoherent : Coherent triple config)
    {operation : Operation} (hbuiltin : operation.UsesBuiltin) :
    Coherent triple (config.step operation).value := by
  have heffect := step_effect config operation
  have htriple := heffect.triple
  have harch := heffect.arch
  have htarget := heffect.target
  cases hlookup : operation.lookup? with
  | none =>
      rw [hlookup] at harch htarget
      refine ⟨htriple.trans hcoherent.triple_kept, ?_, ?_⟩
      · rw [harch]
        exact hcoherent.arch
      · rw [htarget, harch]
        exact hcoherent.target
  | some lookup =>
      obtain ⟨registry, hregistry, rfl⟩ := hbuiltin lookup hlookup
      rw [hlookup, hcoherent.triple_kept] at harch htarget
      refine ⟨htriple.trans hcoherent.triple_kept, Or.inr harch, ?_⟩
      intro handle hhandle
      obtain ⟨backend, hmem, hbackend, rfl⟩ := hregistry.exists_backend (htarget.symm.trans hhandle)
      have hknown : archOf triple ≠ .unknown := hbackend ▸ Backend.arch_ne_unknown hmem
      exact ⟨harch, hknown, Handle.belongsTo_of_mem hmem hbackend⟩

theorem coherent_run (triple : String) {operations : List Operation}
    (hbuiltin : ∀ operation ∈ operations, operation.UsesBuiltin) :
    Coherent triple ((new triple).run operations) := by
  -- the last operation is one step from a configuration that is coherent already
  induction operations using List.reverseRecOn with
  | nil => exact coherent_new triple
  | append_singleton operations operation ih =>
      rw [run_concat]
      apply Coherent.step
      · apply ih
        intro earlier hearlier
        exact hbuiltin earlier (List.mem_append_left _ hearlier)
      · exact hbuiltin operation (by simp)

/-! ## What is shown -/

/-- A summary tells the architecture of a triple, whether or not a backend was looked up, and tells
the backend just when there is one. -/
structure Shows (triple : String) (config : Config) (summary : Summary) : Prop where
  triple_shown : summary.triple = triple
  arch : summary.arch = (archOf triple).name
  pointerWidth : summary.pointerWidth = (archOf triple).pointerWidth
  pointerWidth_isSome : config.isResolved → summary.pointerWidth.isSome
  target : summary.target.isSome ↔ config.isResolved
  targetDescription : summary.targetDescription.isSome ↔ config.isResolved

theorem Coherent.shows {triple : String} {config : Config} (hcoherent : Coherent triple config) :
    Shows triple config (Summary.ofConfig config) := by
  -- the stored architecture and the one that stands in for it are the same
  have harch : config.arch.getD (archOf config.triple) = archOf triple := by
    rw [hcoherent.triple_kept]
    rcases hcoherent.arch with hnone | hsome
    · rw [hnone, Option.getD_none]
    · rw [hsome, Option.getD_some]
  constructor
  case triple_shown => exact hcoherent.triple_kept
  case arch => exact congrArg Arch.name harch
  case pointerWidth => exact congrArg Arch.pointerWidth harch
  case pointerWidth_isSome =>
    intro hresolved
    obtain ⟨handle, htarget⟩ := Option.isSome_iff_exists.mp hresolved
    obtain ⟨_, hknown, _⟩ := hcoherent.target handle htarget
    change (config.arch.getD (archOf config.triple)).pointerWidth.isSome
    rw [harch]
    exact (Arch.isSome_pointerWidth_iff _).mpr hknown
  case target => simp [Summary.ofConfig, isResolved]
  case targetDescription => simp [Summary.ofConfig, isResolved]

/-- With lookups in builtin registries only, every history leaves a configuration whose backend and
architecture are those of its triple, and whose summary says so. -/
theorem run_coherent_and_shown (triple : String) (operations : List Operation)
    (hbuiltin : ∀ operation ∈ operations, operation.UsesBuiltin) :
    Coherent triple ((new triple).run operations) ∧
      Shows triple ((new triple).run operations)
        (Summary.ofConfig ((new triple).run operations)) := by
  have hcoherent := coherent_run triple hbuiltin
  exact ⟨hcoherent, hcoherent.shows⟩

/-- A lookup that fails in a smaller registry comes between two that succeed. -/
theorem run_coherent_and_shown_arm :
    let operations : List Operation :=
      [.resolve Registry.full.lookup, .resolve (Registry.only [.x86_64, .unknown]).lookup,
        .setFeatures ["neon"], .resolve (Registry.only [.arm, .arm]).lookup, .fillDefaults]
    let config := (new "armv7a-none-eabi").run operations
    let handle : Handle := ⟨"arm", "ARM", "armv7a-none-eabi"⟩
    (∀ operation ∈ operations, operation.UsesBuiltin) ∧ config.target = some handle ∧
      handle.BelongsTo "armv7a-none-eabi" ∧ (Summary.ofConfig config).arch = "arm" ∧
      (Summary.ofConfig config).pointerWidth.isSome := by
  intro operations config handle
  have hbuiltin : ∀ operation ∈ operations, operation.UsesBuiltin := by
    intro operation hoperation lookup hlookup
    simp only [operations, List.mem_cons, List.not_mem_nil, or_false] at hoperation
    rcases hoperation with rfl | rfl | rfl | rfl | rfl
    · exact ⟨_, Or.inl rfl, (Option.some.inj hlookup).symm⟩
    · exact ⟨_, Or.inr ⟨_, rfl⟩, (Option.some.inj hlookup).symm⟩
    · contradiction
    · exact ⟨_, Or.inr ⟨_, rfl⟩, (Option.some.inj hlookup).symm⟩
    · contradiction
  obtain ⟨hcoherent, hshows⟩ := run_coherent_and_shown "armv7a-none-eabi" operations hbuiltin
  have htarget : config.target = some handle := by decide +kernel
  obtain ⟨_, _, hbelongs⟩ := hcoherent.target handle htarget
  refine ⟨hbuiltin, htarget, hbelongs, hshows.arch.trans (by decide +kernel), ?_⟩
  apply hshows.pointerWidth_isSome
  rw [isResolved, htarget]
  rfl

end Config

end TargetConfig
