import Mathlib.Data.List.Induction
import TargetConfig.Proofs.Config.Steps

/-! # What a history of operations leaves behind

The state of a configuration is read off the list of operations it has been through, without running
them. Most parts hold what was written to them last. The backend is what the last lookup gave. The
features and the relocation model are also filled in, which leaves a trace only where they were open
at that time and only after a lookup had been tried.
-/

namespace TargetConfig.Config

variable {α β : Type}

/-! ## What operations write -/

namespace Operation

/-- The processor that an operation sets. -/
def cpu? : Operation → Option String
  | setCpu cpu => some cpu
  | _ => none

/-- The features that an operation sets. -/
def features? : Operation → Option (List String)
  | setFeatures features => some features
  | _ => none

/-- The code model that an operation sets. -/
def codeModel? : Operation → Option CodeModel
  | setCodeModel model => some model
  | _ => none

/-- The optimization level that an operation sets. -/
def optimizationLevel? : Operation → Option OptimizationLevel
  | setOptimizationLevel level => some level
  | _ => none

/-- The relocation model that an operation sets. -/
def relocationModel? : Operation → Option RelocationModel
  | setRelocationModel model => some model
  | _ => none

/-- What an operation does to the target options, if it changes them. -/
def optionsWrite? : Operation → Option (TargetOptions → TargetOptions)
  | writeTargetOptions write => some write
  | _ => none

/-- The registry in which an operation looks the backend up. -/
def lookup? : Operation → Option (String → Option Handle)
  | resolve lookup => some lookup
  | _ => none

end Operation

/-- The value that was written last, or the value before all operations if none was. -/
def lastWritten (written? : Operation → Option α) (initial : α) (operations : List Operation) : α :=
  (operations.filterMap written?).getLast?.getD initial

/-- The target options after the writes to them, each of which sees what the earlier ones left. -/
def writtenOptions (operations : List Operation) : TargetOptions :=
  (operations.filterMap Operation.optionsWrite?).foldl (fun options write => write options) {}

/-- What the last lookup gives for a triple; nothing if there was no lookup. -/
def lastLookup (triple : String) (operations : List Operation) : Option Handle :=
  (operations.filterMap Operation.lookup?).getLast?.bind fun lookup => lookup triple

/-- A lookup has been tried. -/
def LookupTried (operations : List Operation) : Prop :=
  ∃ operation ∈ operations, operation.lookup?.isSome

/-- Defaults were filled in at a time when a lookup had been tried, and nothing of the given kind
was written since then. -/
def FilledSince (written? : Operation → Option β) (operations : List Operation) : Prop :=
  ∃ before after, operations = before ++ .fillDefaults :: after ∧ LookupTried before ∧
    ∀ operation ∈ after, written? operation = none

/-! ### One operation more -/

theorem lastWritten_concat (written? : Operation → Option α) (initial : α)
    (operations : List Operation) (operation : Operation) :
    lastWritten written? initial (operations ++ [operation]) =
      (written? operation).getD (lastWritten written? initial operations) := by
  unfold lastWritten
  cases hwritten : written? operation with
  | none => simp [List.filterMap_append, hwritten]
  | some value => simp [List.filterMap_append, hwritten]

theorem writtenOptions_concat (operations : List Operation) (operation : Operation) :
    writtenOptions (operations ++ [operation]) =
      (operation.optionsWrite?.getD id) (writtenOptions operations) := by
  unfold writtenOptions
  cases hwrite : operation.optionsWrite? with
  | none => simp [List.filterMap_append, hwrite]
  | some write => simp [List.filterMap_append, hwrite]

theorem lastLookup_concat (triple : String) (operations : List Operation) (operation : Operation) :
    lastLookup triple (operations ++ [operation]) =
      match operation.lookup? with
      | some lookup => lookup triple
      | none => lastLookup triple operations := by
  unfold lastLookup
  cases hlookup : operation.lookup? with
  | none => simp [List.filterMap_append, hlookup]
  | some lookup => simp [List.filterMap_append, hlookup]

theorem lookupTried_concat (operations : List Operation) (operation : Operation) :
    LookupTried (operations ++ [operation]) ↔
      LookupTried operations ∨ operation.lookup?.isSome := by
  simp [LookupTried, or_and_right, exists_or]

/-- Operations without a lookup leave the last one as it was. -/
theorem lastLookup_append (triple : String) (before : List Operation) {after : List Operation}
    (hafter : ¬ LookupTried after) :
    lastLookup triple (before ++ after) = lastLookup triple before := by
  induction after using List.reverseRecOn with
  | nil => rw [List.append_nil]
  | append_singleton after operation ih =>
      rw [lookupTried_concat, not_or] at hafter
      obtain ⟨hearlier, hoperation⟩ := hafter
      rw [← List.append_assoc, lastLookup_concat, Option.not_isSome_iff_eq_none.mp hoperation]
      exact ih hearlier

theorem filledSince_concat (written? : Operation → Option β) (operations : List Operation)
    (operation : Operation) :
    FilledSince written? (operations ++ [operation]) ↔
      (operation = .fillDefaults ∧ LookupTried operations) ∨
        (written? operation = none ∧ FilledSince written? operations) := by
  constructor
  · rintro ⟨before, after, heq, htried, hafter⟩
    -- the last operation is either the filling itself or one of those after it
    rcases List.eq_nil_or_concat after with rfl | ⟨rest, last, rfl⟩
    · obtain ⟨rfl, hlast⟩ := List.append_inj' heq rfl
      exact Or.inl ⟨by simpa using hlast, htried⟩
    · rw [List.concat_eq_append, ← List.cons_append, ← List.append_assoc] at heq
      obtain ⟨rfl, hlast⟩ := List.append_inj' heq rfl
      obtain rfl : operation = last := by simpa using hlast
      refine Or.inr ⟨hafter operation (by simp), before, rest, rfl, htried, ?_⟩
      intro other hother
      exact hafter other (by simp [hother])
  · rintro (⟨rfl, htried⟩ | ⟨hwritten, before, after, rfl, htried, hafter⟩)
    · exact ⟨operations, [], rfl, htried, by simp⟩
    · refine ⟨before, after ++ [operation], by simp, htried, ?_⟩
      intro other hother
      rcases List.mem_append.mp hother with hother | hother
      · exact hafter other hother
      · rw [List.mem_singleton.mp hother]
        exact hwritten

/-! ## Runs -/

@[simp] theorem run_nil (config : Config) : config.run [] = config := rfl

theorem run_concat (config : Config) (operations : List Operation) (operation : Operation) :
    config.run (operations ++ [operation]) = ((config.run operations).step operation).value := by
  simp [run, List.foldl_append]

/-- What one operation does to the parts that are never filled in. -/
structure Effect (config : Config) (operation : Operation) (next : Config) : Prop where
  triple : next.triple = config.triple
  cpu : next.cpu = operation.cpu?.getD config.cpu
  codeModel : next.codeModel = operation.codeModel?.getD config.codeModel
  optimizationLevel :
    next.optimizationLevel = operation.optimizationLevel?.getD config.optimizationLevel
  targetOptions : next.targetOptions = operation.optionsWrite?.getD id config.targetOptions
  arch :
    next.arch = if operation.lookup?.isSome then some (archOf config.triple) else config.arch
  target :
    next.target =
      match operation.lookup? with
      | some lookup => lookup config.triple
      | none => config.target

theorem step_effect (config : Config) (operation : Operation) :
    Effect config operation (config.step operation).value := by
  cases operation with
  | resolve lookup =>
      simp only [step, resolve_value]
      constructor <;> rfl
  | fillDefaults =>
      simp only [step]
      cases harch : config.arch with
      | none =>
          rw [fillDefaults_value_of_none harch]
          constructor <;> rfl
      | some arch =>
          rw [fillDefaults_value harch]
          constructor <;> rfl
  | _ => constructor <;> rfl

theorem triple_run (config : Config) (operations : List Operation) :
    (config.run operations).triple = config.triple := by
  induction operations using List.reverseRecOn with
  | nil => rfl
  | append_singleton operations operation ih => rw [run_concat, (step_effect _ _).triple, ih]

/-- A part that every operation either writes or leaves alone holds what was written last. -/
theorem run_eq_lastWritten (view : Config → α) (written? : Operation → Option α)
    (hstep : ∀ (config : Config) (operation : Operation),
      view (config.step operation).value = (written? operation).getD (view config))
    (config : Config) (operations : List Operation) :
    view (config.run operations) = lastWritten written? (view config) operations := by
  induction operations using List.reverseRecOn with
  | nil => rfl
  | append_singleton operations operation ih =>
      rw [run_concat, hstep, lastWritten_concat, ih]

theorem targetOptions_run (triple : String) (operations : List Operation) :
    ((new triple).run operations).targetOptions = writtenOptions operations := by
  induction operations using List.reverseRecOn with
  | nil => rfl
  | append_singleton operations operation ih =>
      rw [run_concat, (step_effect _ _).targetOptions, writtenOptions_concat, ih]

theorem target_run (triple : String) (operations : List Operation) :
    ((new triple).run operations).target = lastLookup triple operations := by
  induction operations using List.reverseRecOn with
  | nil => rfl
  | append_singleton operations operation ih =>
      rw [run_concat, (step_effect _ _).target, lastLookup_concat, triple_run, ih]
      rfl

/-- The architecture is known as soon as a lookup has been tried, with whatever result. -/
theorem arch_run (triple : String) (operations : List Operation) :
    (LookupTried operations → ((new triple).run operations).arch = some (archOf triple)) ∧
      (¬ LookupTried operations → ((new triple).run operations).arch = none) := by
  induction operations using List.reverseRecOn with
  | nil => exact ⟨fun ⟨_, hmem, _⟩ => absurd hmem List.not_mem_nil, fun _ => rfl⟩
  | append_singleton operations operation ih =>
      rw [run_concat, (step_effect _ _).arch, triple_run, lookupTried_concat]
      by_cases hlookup : operation.lookup?.isSome
      · simp [hlookup, new]
      · simpa [hlookup] using ih

/-! ## Parts that are filled in -/

/-- A part of a configuration that operations write and that is filled in while it is blank. -/
structure Fillable (α β : Type) [DecidableEq α] where
  view : Config → α
  written? : Operation → Option β
  /-- The part after a write. -/
  value : β → α
  /-- What counts as written at first; it leaves the part blank. -/
  initial : β
  preferred : Arch → α
  view_new : ∀ triple, view (new triple) = value initial
  view_step : ∀ (config : Config) (operation : Operation), operation ≠ .fillDefaults →
    view (config.step operation).value = ((written? operation).map value).getD (view config)
  written_fillDefaults : written? .fillDefaults = none
  view_fillDefaults : ∀ {config : Config} {arch : Arch}, config.arch = some arch →
    view config.fillDefaults.value =
      if view config = value initial then preferred arch else view config

namespace Fillable

variable [DecidableEq α]

/-- The value of a part after a history: what was written last, unless that leaves the part blank
and the preference of the architecture was filled in since. -/
structure Holds (part : Fillable α β) (triple : String) (operations : List Operation) (value : α) :
    Prop where
  written : part.value (lastWritten part.written? part.initial operations) ≠
    part.value part.initial →
      value = part.value (lastWritten part.written? part.initial operations)
  filled : part.value (lastWritten part.written? part.initial operations) =
    part.value part.initial → FilledSince part.written? operations →
      value = part.preferred (archOf triple)
  blank : part.value (lastWritten part.written? part.initial operations) =
    part.value part.initial → ¬ FilledSince part.written? operations →
      value = part.value part.initial

/-- Where only some architectures have a preference, the others leave the part blank. -/
theorem Holds.of_preferred {part : Fillable α β} {triple : String} {operations : List Operation}
    {value special : α} {P : Prop} [Decidable P] (hpart : part.Holds triple operations value)
    (hpreferred : part.preferred (archOf triple) =
      if P then special else part.value part.initial)
    (hopen : part.value (lastWritten part.written? part.initial operations) =
      part.value part.initial) :
    (P → FilledSince part.written? operations → value = special) ∧
      (¬ (P ∧ FilledSince part.written? operations) → value = part.value part.initial) := by
  constructor
  · intro hspecial hsince
    rw [hpart.filled hopen hsince, hpreferred, if_pos hspecial]
  · intro hnot
    by_cases hsince : FilledSince part.written? operations
    · rw [hpart.filled hopen hsince, hpreferred, if_neg fun hspecial => hnot ⟨hspecial, hsince⟩]
    · exact hpart.blank hopen hsince

/-- Filling in once more. Before a lookup it changes nothing; after one, a part that is not blank
was either written or filled in already, with the same preference. -/
theorem Holds.fillDefaults {part : Fillable α β} {triple : String} {operations : List Operation}
    (hpart : part.Holds triple operations (part.view ((new triple).run operations))) :
    part.Holds triple (operations ++ [.fillDefaults])
      (part.view ((new triple).run operations).fillDefaults.value) := by
  have hsame : lastWritten part.written? part.initial (operations ++ [.fillDefaults]) =
      lastWritten part.written? part.initial operations := by
    rw [lastWritten_concat, part.written_fillDefaults, Option.getD_none]
  obtain ⟨harch, hnone⟩ := arch_run triple operations
  by_cases htried : LookupTried operations
  · have hfilled : FilledSince part.written? (operations ++ [.fillDefaults]) :=
      (filledSince_concat _ _ _).mpr (Or.inl ⟨rfl, htried⟩)
    rw [part.view_fillDefaults (harch htried)]
    constructor
    · rw [hsame]
      intro hne
      rw [hpart.written hne, if_neg hne]
    · rw [hsame]
      intro heq _
      split
      next => rfl
      next hview =>
        -- not blank although nothing was written: it was filled before, for the same triple
        by_cases hsince : FilledSince part.written? operations
        · exact hpart.filled heq hsince
        · exact absurd (hpart.blank heq hsince) hview
    · intro _ hnot
      exact absurd hfilled hnot
  · have hsince : FilledSince part.written? (operations ++ [.fillDefaults]) ↔
        FilledSince part.written? operations := by
      simp [filledSince_concat, htried, part.written_fillDefaults]
    rw [fillDefaults_value_of_none (hnone htried)]
    constructor
    · rw [hsame]
      exact hpart.written
    · rw [hsame, hsince]
      exact hpart.filled
    · rw [hsame, hsince]
      exact hpart.blank

/-- Any other operation. A write decides the part alone; what does not write it keeps it. -/
theorem Holds.step {part : Fillable α β} {triple : String} {operations : List Operation}
    {operation : Operation} (hne : operation ≠ .fillDefaults)
    (hpart : part.Holds triple operations (part.view ((new triple).run operations))) :
    part.Holds triple (operations ++ [operation])
      (part.view (((new triple).run operations).step operation).value) := by
  have hsince : FilledSince part.written? (operations ++ [operation]) ↔
      part.written? operation = none ∧ FilledSince part.written? operations := by
    simp [filledSince_concat, hne]
  rw [part.view_step _ _ hne]
  cases hwritten : part.written? operation with
  | none =>
      have hsame : lastWritten part.written? part.initial (operations ++ [operation]) =
          lastWritten part.written? part.initial operations := by
        rw [lastWritten_concat, hwritten, Option.getD_none]
      rw [Option.map_none, Option.getD_none]
      constructor
      · rw [hsame]
        exact hpart.written
      · rw [hsame, hsince]
        exact fun heq hfilled => hpart.filled heq hfilled.2
      · rw [hsame, hsince]
        exact fun heq hnot => hpart.blank heq fun hfilled => hnot ⟨hwritten, hfilled⟩
  | some written =>
      have hlast : lastWritten part.written? part.initial (operations ++ [operation]) =
          written := by
        rw [lastWritten_concat, hwritten, Option.getD_some]
      rw [Option.map_some, Option.getD_some]
      constructor
      · rw [hlast]
        exact fun _ => rfl
      · rw [hsince, hwritten]
        exact fun _ hfilled => absurd hfilled.1 (Option.some_ne_none written)
      · rw [hlast]
        exact fun heq _ => heq

theorem holds_run (part : Fillable α β) (triple : String) (operations : List Operation) :
    part.Holds triple operations (part.view ((new triple).run operations)) := by
  induction operations using List.reverseRecOn with
  | nil =>
      have hnot : ¬ FilledSince part.written? [] := by
        rintro ⟨before, after, heq, _⟩
        exact absurd heq.symm (by simp)
      rw [run_nil, part.view_new]
      exact ⟨fun hne => absurd rfl hne, fun _ hfilled => absurd hfilled hnot, fun _ _ => rfl⟩
  | append_singleton operations operation ih =>
      rw [run_concat]
      by_cases hfill : operation = .fillDefaults
      · subst hfill
        exact ih.fillDefaults
      · exact ih.step hfill

end Fillable

/-- The feature string, which is blank while it is empty. -/
def featurePart : Fillable String (List String) where
  view := featureString
  written? := Operation.features?
  value := joinFeatures
  initial := []
  preferred arch := joinFeatures arch.preferences.features
  view_new _ := rfl
  view_step config operation hne := by
    cases operation with
    | fillDefaults => exact absurd rfl hne
    | resolve lookup => simp only [step, resolve_value]; rfl
    | _ => rfl
  written_fillDefaults := rfl
  view_fillDefaults harch := by rw [fillDefaults_value harch]; rfl

/-- The relocation model, which is blank while it is the default one. -/
def relocationPart : Fillable RelocationModel RelocationModel where
  view := relocationModel
  written? := Operation.relocationModel?
  value := id
  initial := .default
  preferred arch := arch.preferences.relocationModel.getD .default
  view_new _ := rfl
  view_step config operation hne := by
    cases operation with
    | fillDefaults => exact absurd rfl hne
    | resolve lookup => simp only [step, resolve_value]; rfl
    | _ => rfl
  written_fillDefaults := rfl
  view_fillDefaults harch := by rw [fillDefaults_value harch]; rfl

/-! ## The aftermath of a history -/

/-- What a configuration that started with a triple is after a history. -/
structure Aftermath (triple : String) (operations : List Operation) (config : Config) : Prop where
  triple_kept : config.triple = triple
  cpu : config.cpu = lastWritten Operation.cpu? "" operations
  codeModel : config.codeModel = lastWritten Operation.codeModel? .default operations
  optimizationLevel :
    config.optimizationLevel = lastWritten Operation.optimizationLevel? .default operations
  targetOptions : config.targetOptions = writtenOptions operations
  arch_tried : LookupTried operations → config.arch = some (archOf triple)
  arch_untried : ¬ LookupTried operations → config.arch = none
  target : config.target = lastLookup triple operations
  /-- A list of features that was set and is not empty as a text stays. -/
  features_written : joinFeatures (lastWritten Operation.features? [] operations) ≠ "" →
    config.featureString = joinFeatures (lastWritten Operation.features? [] operations)
  features_filled : joinFeatures (lastWritten Operation.features? [] operations) = "" →
    (archOf triple).isArm → FilledSince Operation.features? operations →
      config.featureString = "+vfp3,+neon"
  features_blank : joinFeatures (lastWritten Operation.features? [] operations) = "" →
    ¬ ((archOf triple).isArm ∧ FilledSince Operation.features? operations) →
      config.featureString = ""
  /-- A relocation model that was set and is not the default one stays. -/
  relocation_written : lastWritten Operation.relocationModel? .default operations ≠ .default →
    config.relocationModel = lastWritten Operation.relocationModel? .default operations
  relocation_filled : lastWritten Operation.relocationModel? .default operations = .default →
    (archOf triple = .mips ∨ archOf triple = .mipsel) →
      FilledSince Operation.relocationModel? operations → config.relocationModel = .static
  relocation_blank : lastWritten Operation.relocationModel? .default operations = .default →
    ¬ ((archOf triple = .mips ∨ archOf triple = .mipsel) ∧
      FilledSince Operation.relocationModel? operations) → config.relocationModel = .default

/-- The parts of an aftermath leave nothing open. -/
theorem Aftermath.unique {triple : String} {operations : List Operation} {left right : Config}
    (hleft : Aftermath triple operations left) (hright : Aftermath triple operations right) :
    left = right := by
  have harch : left.arch = right.arch := by
    by_cases htried : LookupTried operations
    · rw [hleft.arch_tried htried, hright.arch_tried htried]
    · rw [hleft.arch_untried htried, hright.arch_untried htried]
  have hfeatures : left.featureString = right.featureString := by
    by_cases hopen : joinFeatures (lastWritten Operation.features? [] operations) = ""
    · by_cases hfilled : (archOf triple).isArm ∧ FilledSince Operation.features? operations
      · rw [hleft.features_filled hopen hfilled.1 hfilled.2,
          hright.features_filled hopen hfilled.1 hfilled.2]
      · rw [hleft.features_blank hopen hfilled, hright.features_blank hopen hfilled]
    · rw [hleft.features_written hopen, hright.features_written hopen]
  have hrelocation : left.relocationModel = right.relocationModel := by
    by_cases hopen : lastWritten Operation.relocationModel? .default operations = .default
    · by_cases hfilled : (archOf triple = .mips ∨ archOf triple = .mipsel) ∧
          FilledSince Operation.relocationModel? operations
      · rw [hleft.relocation_filled hopen hfilled.1 hfilled.2,
          hright.relocation_filled hopen hfilled.1 hfilled.2]
      · rw [hleft.relocation_blank hopen hfilled, hright.relocation_blank hopen hfilled]
    · rw [hleft.relocation_written hopen, hright.relocation_written hopen]
  have htriple := hleft.triple_kept.trans hright.triple_kept.symm
  have hcpu := hleft.cpu.trans hright.cpu.symm
  have hcodeModel := hleft.codeModel.trans hright.codeModel.symm
  have hlevel := hleft.optimizationLevel.trans hright.optimizationLevel.symm
  have hoptions := hleft.targetOptions.trans hright.targetOptions.symm
  have htarget := hleft.target.trans hright.target.symm
  cases left
  cases right
  simp_all

theorem run_aftermath (triple : String) (operations : List Operation) :
    Aftermath triple operations ((new triple).run operations) := by
  have hfeatures := featurePart.holds_run triple operations
  have hrelocation := relocationPart.holds_run triple operations
  constructor
  case triple_kept => exact triple_run _ _
  case cpu => exact run_eq_lastWritten cpu _ (fun c o => (step_effect c o).cpu) _ _
  case codeModel =>
    exact run_eq_lastWritten codeModel _ (fun c o => (step_effect c o).codeModel) _ _
  case optimizationLevel =>
    exact run_eq_lastWritten optimizationLevel _
      (fun c o => (step_effect c o).optimizationLevel) _ _
  case targetOptions => exact targetOptions_run triple operations
  case arch_tried => exact (arch_run triple operations).1
  case arch_untried => exact (arch_run triple operations).2
  case target => exact target_run triple operations
  case features_written => exact hfeatures.written
  case features_filled =>
    intro hopen
    exact (hfeatures.of_preferred (Arch.joinFeatures_preferences _) hopen).1
  case features_blank =>
    intro hopen
    exact (hfeatures.of_preferred (Arch.joinFeatures_preferences _) hopen).2
  case relocation_written => exact hrelocation.written
  case relocation_filled =>
    intro hopen
    exact (hrelocation.of_preferred (Arch.relocationModel_preferences _) hopen).1
  case relocation_blank =>
    intro hopen
    exact (hrelocation.of_preferred (Arch.relocationModel_preferences _) hopen).2

/-- A history decides every part of a configuration, and `Aftermath` says how. -/
theorem eq_run_iff_aftermath (triple : String) (operations : List Operation) (config : Config) :
    config = (new triple).run operations ↔ Aftermath triple operations config := by
  constructor
  · rintro rfl
    exact run_aftermath triple operations
  · intro haftermath
    exact haftermath.unique (run_aftermath triple operations)

end TargetConfig.Config
