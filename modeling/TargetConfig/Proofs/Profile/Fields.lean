import TargetConfig.Proofs.Profile.Layout

/-! # The fields of profiles and their options

Profiles and options are read as their layouts say. Only the triple has to be there: without it the
reading fails, but only when nothing else is wrong. A value stands for options if it is a table, an
array with their values in order, or a date, which says nothing.
-/

namespace TargetConfig

open Toml

/-! ## Options -/

namespace TargetOptions

/-- The fields of the options. All of them may be left out. -/
def layout : Layout TargetOptions where
  fields := [
    ⟨"float-abi", Reading.choice FloatAbi, some .default, floatAbi,
      fun options floatAbi => { options with floatAbi }, fun _ _ => rfl⟩,
    ⟨"no-frame-pointer-elim", Reading.truth, some false, noFramePointerElim,
      fun options noFramePointerElim => { options with noFramePointerElim }, fun _ _ => rfl⟩,
    ⟨"unsafe-fp-math", Reading.truth, some false, unsafeFpMath,
      fun options unsafeFpMath => { options with unsafeFpMath }, fun _ _ => rfl⟩,
    ⟨"no-infs-fp-math", Reading.truth, some false, noInfsFpMath,
      fun options noInfsFpMath => { options with noInfsFpMath }, fun _ _ => rfl⟩,
    ⟨"no-nans-fp-math", Reading.truth, some false, noNansFpMath,
      fun options noNansFpMath => { options with noNansFpMath }, fun _ _ => rfl⟩,
    ⟨"use-init-array", Reading.truth, some false, useInitArray,
      fun options useInitArray => { options with useInitArray }, fun _ _ => rfl⟩,
    ⟨"function-sections", Reading.truth, some false, functionSections,
      fun options functionSections => { options with functionSections }, fun _ _ => rfl⟩,
    ⟨"data-sections", Reading.truth, some false, dataSections,
      fun options dataSections => { options with dataSections }, fun _ _ => rfl⟩,
    ⟨"emulated-tls", Reading.truth, some false, emulatedTls,
      fun options emulatedTls => { options with emulatedTls }, fun _ _ => rfl⟩]
  initial := {}
  nodup := by decide
  get_put_of_ne := by simp
  ext := by
    intro record other hfields
    cases record
    cases other
    simpa using hfields
  get_initial := by simp

theorem set_eq_layout_set (options : TargetOptions) (key : String) (v : Value) :
    options.set key v = layout.set options key v := by
  unfold set
  split
  case h_10 =>
    apply Eq.symm
    apply Layout.set_of_unknown
    simp_all [layout, eq_comm]
  all_goals rfl

theorem setAll_eq_layout_setAll (options : TargetOptions) (entries : Table) :
    options.setAll entries = layout.setAll options entries := by
  simp only [setAll, Layout.setAll, set_eq_layout_set]

/-- The entries that a value stands for as options. The items of an array have the keys of the
options in their order. -/
def entries? (v : Value) : Option Table :=
  (fields? v).map fun
    | .entries entries => entries
    | .items items => keys.zip items

theorem read_eq (v : Value) :
    TargetOptions.read v =
      (Format.expect "struct TargetOptions" entries? v).bind (layout.setAll {}) := by
  have hview : Format.fields? v = fields? v := rfl
  unfold TargetOptions.read Format.expect entries?
  rw [hview]
  cases fields? v with
  | none => rfl
  | some fields =>
      cases fields with
      | entries entries => exact setAll_eq_layout_setAll {} entries
      | items items =>
          change (setAll {} (keys.zip items)).bind _ = layout.setAll {} (keys.zip items)
          rw [setAll_eq_layout_setAll]
          cases layout.setAll {} (keys.zip items) with
          | ok options =>
              -- the format lets an array be longer than the record
              simp [Except.bind, Format.checkExcess, Format.allowsExcess]
          | error mismatch => rfl

theorem sublist_map_fst_zip (keys : List String) (items : List Value) :
    ((keys.zip items).map Prod.fst).Sublist keys := by
  induction keys generalizing items with
  | nil => simp
  | cons key keys ih =>
      cases items with
      | nil => simp
      | cons item items => exact (ih items).cons_cons key

theorem proper_zip {items : List Value} (hitems : ∀ item ∈ items, item.Proper) :
    Table.Proper (keys.zip items) := by
  constructor
  · exact (sublist_map_fst_zip keys items).nodup (by decide)
  · intro entry hentry
    exact hitems entry.2 (List.of_mem_zip hentry).2

theorem proper_of_entries? {v : Value} {entries : Table} (hv : v.Proper)
    (hentries : entries? v = some entries) : entries.Proper := by
  cases hv with
  | table hdistinct hvalues =>
      obtain rfl := Option.some.inj hentries
      exact ⟨hdistinct, hvalues⟩
  | datetime =>
      obtain rfl := Option.some.inj hentries
      exact Table.Proper.nil
  | array hitems =>
      obtain rfl := Option.some.inj hentries
      exact proper_zip hitems
  | tables helements =>
      obtain rfl := Option.some.inj hentries
      apply proper_zip
      intro item hitem
      obtain ⟨element, helement, rfl⟩ := List.mem_map.mp hitem
      exact helements element helement
  | _ => contradiction

theorem complete_layout (entries : Table) : layout.Complete entries := by
  simp [Layout.Complete, layout]

/-- What a value says about options, and what is wrong with it. -/
def reading : Reading TargetOptions where
  read := TargetOptions.read
  Says v options := ∃ entries, entries? v = some entries ∧ layout.Describes entries options
  Faulty v mismatch :=
    (entries? v = none ∧ mismatch = .wrongType (found v) "struct TargetOptions") ∨
      ∃ entries, entries? v = some entries ∧ layout.FirstFault entries mismatch
  read_eq_ok_iff := by
    intro v hv options
    rw [read_eq, Attempt.bind_eq_ok_iff]
    apply exists_congr
    intro entries
    rw [Reading.expect_eq_ok_iff]
    apply and_congr_right
    intro hentries
    rw [Layout.describes_iff (proper_of_entries? hv hentries)]
    exact (and_iff_left (complete_layout entries)).symm
  read_eq_error_iff := by
    intro v hv mismatch
    rw [read_eq, Attempt.bind_eq_error_iff, Reading.expect_eq_error_iff]
    apply or_congr_right
    apply exists_congr
    intro entries
    rw [Reading.expect_eq_ok_iff]
    apply and_congr_right
    intro hentries
    exact Layout.setAll_eq_error_iff (proper_of_entries? hv hentries)
  ne_missingKey := by
    rintro v mismatch (⟨_, rfl⟩ | ⟨entries, _, hfault⟩) key
    · simp
    · exact hfault.ne_missingKey key

/-- Options fit if they stand for entries that fit. -/
theorem exists_says_iff {v : Value} (hv : v.Proper) :
    (∃ options, reading.Says v options) ↔
      ∃ entries, entries? v = some entries ∧ ∀ entry ∈ entries, layout.Fits entry := by
  constructor
  · rintro ⟨options, entries, hentries, hdescribes⟩
    have hproper := proper_of_entries? hv hentries
    exact ⟨entries, hentries, ((Layout.exists_describes_iff hproper).mp ⟨options, hdescribes⟩).1⟩
  · rintro ⟨entries, hentries, hfits⟩
    have hproper := proper_of_entries? hv hentries
    obtain ⟨options, hdescribes⟩ := (Layout.exists_describes_iff hproper).mpr
      ⟨hfits, complete_layout entries⟩
    exact ⟨options, entries, hentries, hdescribes⟩

@[simp] theorem says_table_iff {origin : Origin} {entries : Table} {options : TargetOptions} :
    reading.Says (.table origin entries) options ↔ layout.Describes entries options := by
  constructor
  · rintro ⟨_, hentries, hdescribes⟩
    obtain rfl := Option.some.inj hentries
    exact hdescribes
  · intro hdescribes
    exact ⟨entries, rfl, hdescribes⟩

end TargetOptions

/-! ## Profiles -/

namespace Profile

def tripleField : Field Profile :=
  ⟨"triple", Reading.text, none, triple,
    fun profile triple => { profile with triple }, fun _ _ => rfl⟩

def optionsField : Field Profile :=
  ⟨"target-options", TargetOptions.reading, some {}, targetOptions,
    fun profile targetOptions => { profile with targetOptions }, fun _ _ => rfl⟩

/-- The fields of a profile. Only the triple has to be there. -/
def layout : Layout Profile where
  fields := [
    tripleField,
    ⟨"cpu", Reading.text, some "", cpu,
      fun profile cpu => { profile with cpu }, fun _ _ => rfl⟩,
    ⟨"features", Reading.texts, some [], features,
      fun profile features => { profile with features }, fun _ _ => rfl⟩,
    ⟨"code-model", Reading.choice CodeModel, some .default, codeModel,
      fun profile codeModel => { profile with codeModel }, fun _ _ => rfl⟩,
    ⟨"optimization-level", Reading.choice OptimizationLevel, some .default, optimizationLevel,
      fun profile optimizationLevel => { profile with optimizationLevel }, fun _ _ => rfl⟩,
    ⟨"relocation-model", Reading.choice RelocationModel, some .default, relocationModel,
      fun profile relocationModel => { profile with relocationModel }, fun _ _ => rfl⟩,
    optionsField]
  initial := { triple := "" }
  nodup := by decide
  get_put_of_ne := by simp [tripleField, optionsField]
  ext := by
    intro record other hfields
    cases record
    cases other
    simpa [tripleField, optionsField] using hfields
  get_initial := by simp [tripleField, optionsField]

theorem set_eq_layout_set (profile : Profile) (key : String) (v : Value) :
    profile.set key v = layout.set profile key v := by
  unfold set
  split
  case h_8 =>
    apply Eq.symm
    apply Layout.set_of_unknown
    simp_all [layout, tripleField, optionsField, eq_comm]
  all_goals rfl

theorem setAll_eq_layout_setAll (profile : Profile) (entries : Table) :
    profile.setAll entries = layout.setAll profile entries := by
  simp only [setAll, Layout.setAll, set_eq_layout_set]

variable {table : Table} {profile : Profile}

theorem complete_layout_iff : layout.Complete table ↔ (table.get? "triple").isSome := by
  simp [Layout.Complete, layout, tripleField, optionsField]

theorem ofEntries_eq (table : Table) :
    ofEntries table = (layout.setAll { triple := "" } table).bind fun profile =>
      if (table.get? "triple").isSome then .ok profile else .error (.missingKey "triple") := by
  rw [← setAll_eq_layout_setAll]
  rfl

theorem ofEntries_eq_ok_iff (htable : table.Proper) :
    ofEntries table = .ok profile ↔ layout.Describes table profile := by
  rw [Layout.describes_iff htable, complete_layout_iff, ofEntries_eq, Attempt.bind_eq_ok_iff]
  split
  next htriple => simp [htriple, layout]
  next htriple => simp [htriple]

/-- A missing triple is reported only after all that is there. -/
theorem ofEntries_eq_error_iff (htable : table.Proper) {mismatch : Mismatch} :
    ofEntries table = .error mismatch ↔ layout.FirstFault table mismatch ∨
      (∀ entry ∈ table, layout.Fits entry) ∧ table.get? "triple" = none ∧
        mismatch = .missingKey "triple" := by
  rw [ofEntries_eq, Attempt.bind_eq_error_iff, Layout.setAll_eq_error_iff htable,
    ← Layout.exists_setAll_iff { triple := "" } htable]
  apply or_congr_right
  split
  next htriple =>
    have hthere : table.get? "triple" ≠ none := Option.isSome_iff_ne_none.mp htriple
    simp [hthere]
  next htriple =>
    have hmissing : table.get? "triple" = none := by simpa using htriple
    simp [hmissing, eq_comm]

end Profile

end TargetConfig
