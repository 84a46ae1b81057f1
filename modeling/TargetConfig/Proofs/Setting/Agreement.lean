import TargetConfig.Proofs.Profile.Parse
import TargetConfig.Proofs.Setting.Spelling

/-! # Settings in files and in flags

A file and a flag both give a setting as a text. The file takes the label of a value exactly as it
is written. The flag takes it in any case, and takes a few further spellings. So every text of a
file can be moved to a flag, where it says the same, but not every flag can be moved to a file.
-/

namespace TargetConfig.Setting

open Toml

/-- How files and flags spell a setting that messages call `title` and files keep under `key`. The
further spellings of a value, which only a flag takes, are `more`. -/
structure SpelledAs (α : Type) [Setting α] (title key : String) (view : Profile → α)
    (more : α → String → Prop) : Prop where
  flag_ok : ∀ (s : String) (a : α), ofFlag α s = .ok a ↔
    ∃ t, LowerCased s t ∧ (t = Enumerated.label a ∨ more a t)
  /-- A text that is refused is reported as it was given, not in lower case. -/
  flag_error : ∀ (s : String) (error : ConfigError), ofFlag α s = .error error ↔
    (∀ (a : α) (t : String), LowerCased s t → ¬ (t = Enumerated.label a ∨ more a t)) ∧
      error = .invalidValue title s
  file_ok : ∀ (s : String) (a : α),
    Format.choice (Value.string s) = (.ok a : Except Mismatch α) ↔ s = Enumerated.label a
  file_error : ∀ (s : String) (mismatch : Mismatch),
    Format.choice (Value.string s) = (.error mismatch : Except Mismatch α) ↔
      (∀ a : α, Enumerated.label a ≠ s) ∧ mismatch = .unknownLabel s (Enumerated.labels α)
  /-- If a document gives the setting as a string, the string is the label of what is read. -/
  document : ∀ (text : String) (table : Table) (s : String) (profile : Profile),
    Document.parse text = some table → table.get? key = some (.string s) →
      Profile.parse text = .ok profile → s = Enumerated.label (view profile)
  flag_of_file : ∀ (s : String) (a : α),
    Format.choice (Value.string s) = (.ok a : Except Mismatch α) → ofFlag α s = .ok a
  flag_congr : ∀ (s t : String), SameUpToCase s t →
    ∀ a : α, ofFlag α s = .ok a ↔ ofFlag α t = .ok a
  not_ascii : ∀ (s : String), ∀ c ∈ s.toList, 128 ≤ c.toNat → ∀ a : α,
    ofFlag α s ≠ .ok a ∧ Format.choice (Value.string s) ≠ (.ok a : Except Mismatch α)

variable {α : Type} [Setting α] [LawfulEnumerated α] {key : String} {view : Profile → α}
  {more : α → String → Prop}

/-- A string under the key of a choice is the label of what the profile has there. -/
theorem eq_label_of_document {fallback : Option α} {put : Profile → α → Profile}
    {hput : ∀ profile a, view (put profile a) = a}
    (hfield : ⟨key, Reading.choice α, fallback, view, put, hput⟩ ∈ Profile.layout.fields)
    {text : String} {table : Table} {s : String} {profile : Profile}
    (hdocument : Document.parse text = some table) (hget : table.get? key = some (.string s))
    (hparse : Profile.parse text = .ok profile) : s = Enumerated.label (view profile) := by
  have hdescribes := (Profile.parse_eq_ok_iff hdocument).mp hparse
  have hsays := hdescribes _ hfield
  simp only [Field.Is, hget] at hsays
  rcases hsays with hstring | ⟨_, _, htable, _⟩
  · exact Value.string.inj hstring
  · contradiction

theorem SpelledAs.of_spellings [LawfulSetting α] {title : String}
    (htitle : Setting.title α = title)
    (hspellings : ∀ (a : α) (t : String), t ∈ spellings a ↔ t = Enumerated.label a ∨ more a t)
    (hdocument : ∀ (text : String) (table : Table) (s : String) (profile : Profile),
      Document.parse text = some table → table.get? key = some (.string s) →
        Profile.parse text = .ok profile → s = Enumerated.label (view profile)) :
    SpelledAs α title key view more := by
  have hflag : ∀ (s : String) (a : α), ofFlag α s = .ok a ↔
      ∃ t, LowerCased s t ∧ (t = Enumerated.label a ∨ more a t) := by
    intro s a
    simp only [lowerCased_iff, ofFlag_eq_ok_iff_mem, hspellings, exists_eq_left']
  constructor
  case flag_ok => exact hflag
  case flag_error =>
    intro s error
    simp only [ofFlag_eq_error_iff, Unknown, hflag, htitle, not_exists, ne_eq, not_and]
  case file_ok => exact fun s a => Reading.ofLabel_eq_ok_iff
  case file_error => exact fun s mismatch => Reading.ofLabel_eq_error_iff
  case document => exact hdocument
  case flag_of_file =>
    intro s a hfile
    rw [Reading.ofLabel_eq_ok_iff.mp hfile]
    exact ofFlag_label a
  case flag_congr => exact fun s t hsame a => ofFlag_eq_ok_congr hsame a
  case not_ascii =>
    intro s c hmem hc a
    have hunknown : Unknown α s := unknown_of_not_ascii hmem hc
    refine ⟨hunknown a, ?_⟩
    intro hfile
    apply hunknown a
    rw [Reading.ofLabel_eq_ok_iff.mp hfile]
    exact ofFlag_label a

/-- The spellings of the three models. A level can also be given by its number in a flag, and the
relocation model with two hyphens with underscores in their place. -/
theorem file_and_flag_spellings :
    SpelledAs CodeModel "code model" "code-model" Profile.codeModel (fun _ _ => False) ∧
    SpelledAs OptimizationLevel "optimization level" "optimization-level" Profile.optimizationLevel
      (fun level t => t = String.singleton (Nat.digitChar level.number)) ∧
    SpelledAs RelocationModel "relocation model" "relocation-model" Profile.relocationModel
      (fun model t => model = .dynamicNoPic ∧ t = "dynamic_no_pic") := by
  refine ⟨?_, ?_, ?_⟩
  · apply SpelledAs.of_spellings rfl
    · intro model t
      simp [spellings, Enumerated.label]
    · intro text table s profile
      exact eq_label_of_document (List.mem_of_getElem? (i := 3) rfl)
  · apply SpelledAs.of_spellings rfl
    · intro level t
      have hdigit : toString level.number = String.singleton (Nat.digitChar level.number) := by
        cases level <;> rfl
      rw [← hdigit]
      simp [spellings, Enumerated.label]
    · intro text table s profile
      exact eq_label_of_document (List.mem_of_getElem? (i := 4) rfl)
  · apply SpelledAs.of_spellings rfl
    · intro model t
      cases model <;> simp [spellings, Enumerated.label, RelocationModel.label]
    · intro text table s profile
      exact eq_label_of_document (List.mem_of_getElem? (i := 5) rfl)

/-- The Kelvin sign is a capital form of `k` in Unicode, but not in ASCII. -/
example : ofFlag CodeModel "\u212aERNEL" = .error (.invalidValue "code model" "\u212aERNEL") ∧
    ofFlag CodeModel "KERNEL" = .ok .kernel := by
  decide

end TargetConfig.Setting
