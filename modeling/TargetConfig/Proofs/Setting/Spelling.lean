import Mathlib.Data.List.Forall2
import TargetConfig.Proofs.Request.Resolution

/-! # How a flag spells a setting

A flag says a value by any of its spellings, in any case of the ASCII letters. No other letters have
a case here, so a text with a character outside ASCII says nothing: the Kelvin sign is no `k`.
-/

namespace TargetConfig.Setting

/-! ## ASCII case -/

/-- What lower-casing makes of a character: of a letter from `A` to `Z` the small one, and of any
other character itself. -/
inductive Lowered : Char → Char → Prop
  | letter {c d : Char} (hc : 'A' ≤ c ∧ c ≤ 'Z') (hd : d.toNat = c.toNat + 32) : Lowered c d
  | other {c : Char} (hc : ¬ ('A' ≤ c ∧ c ≤ 'Z')) : Lowered c c

/-- The second text is the first one in lower case. -/
def LowerCased (s t : String) : Prop := List.Forall₂ Lowered s.toList t.toList

/-- Characters that are equal up to the case of ASCII letters. -/
def SameLetter (c d : Char) : Prop := c = d ∨ Lowered c d ∨ Lowered d c

/-- Texts that are equal up to the case of ASCII letters. -/
def SameUpToCase (s t : String) : Prop := List.Forall₂ SameLetter s.toList t.toList

theorem toNat_toLower {c : Char} (hc : 'A' ≤ c ∧ c ≤ 'Z') : c.toLower.toNat = c.toNat + 32 := by
  have hlast : c.toNat ≤ 90 := hc.2
  have hlower : c.toLower.val = c.val + ('a'.val - 'A'.val) := by
    unfold Char.toLower
    exact congrArg Char.val (dif_pos hc)
  change c.toLower.val.toNat = _
  rw [hlower, UInt32.toNat_add]
  change (c.toNat + 32) % 2 ^ 32 = _
  omega

theorem toLower_of_not_letter {c : Char} (hc : ¬ ('A' ≤ c ∧ c ≤ 'Z')) : c.toLower = c :=
  dif_neg hc

theorem lowered_iff {c d : Char} : Lowered c d ↔ c.toLower = d := by
  constructor
  · intro hlowered
    cases hlowered with
    | letter hc hd => exact Char.toNat_inj.mp ((toNat_toLower hc).trans hd.symm)
    | other hc => exact toLower_of_not_letter hc
  · intro hlower
    subst hlower
    by_cases hc : 'A' ≤ c ∧ c ≤ 'Z'
    · exact .letter hc (toNat_toLower hc)
    · rw [toLower_of_not_letter hc]
      exact .other hc

/-- A small letter is not made any smaller. -/
theorem toLower_toLower (c : Char) : c.toLower.toLower = c.toLower := by
  by_cases hc : 'A' ≤ c ∧ c ≤ 'Z'
  · apply toLower_of_not_letter
    intro hletter
    have hfirst : 65 ≤ c.toNat := hc.1
    have hlast : c.toLower.toNat ≤ 90 := hletter.2
    rw [toNat_toLower hc] at hlast
    omega
  · rw [toLower_of_not_letter hc, toLower_of_not_letter hc]

theorem SameLetter.toLower_eq {c d : Char} (hsame : SameLetter c d) : c.toLower = d.toLower := by
  rcases hsame with heq | hlowered | hlowered
  · rw [heq]
  · rw [← lowered_iff.mp hlowered, toLower_toLower]
  · rw [← lowered_iff.mp hlowered, toLower_toLower]

theorem toList_lowerCase (s : String) : (lowerCase s).toList = s.toList.map Char.toLower := by
  simp [lowerCase]

theorem lowerCased_iff {s t : String} : LowerCased s t ↔ lowerCase s = t := by
  have hlowered : Lowered = fun c d => c.toLower = d := by
    funext c d
    exact propext lowered_iff
  rw [LowerCased, hlowered, ← List.forall₂_map_left_iff (f := Char.toLower) (R := Eq),
    List.forall₂_eq_eq_eq, ← toList_lowerCase, String.toList_inj]

theorem SameUpToCase.lowerCase_eq {s t : String} (hsame : SameUpToCase s t) :
    lowerCase s = lowerCase t := by
  apply String.toList_inj.mp
  rw [toList_lowerCase, toList_lowerCase, ← List.forall₂_eq_eq_eq, List.forall₂_map_left_iff,
    List.forall₂_map_right_iff]
  exact List.Forall₂.imp (fun _ _ => SameLetter.toLower_eq) hsame

/-- Lower-casing leaves characters outside ASCII as they are. -/
theorem mem_lowerCase {s : String} {c : Char} (hmem : c ∈ s.toList) (hc : 128 ≤ c.toNat) :
    c ∈ (lowerCase s).toList := by
  have hlower : c.toLower = c := by
    apply toLower_of_not_letter
    intro hletter
    have hlast : c.toNat ≤ 90 := hletter.2
    omega
  rw [toList_lowerCase, ← hlower]
  exact List.mem_map_of_mem hmem

end TargetConfig.Setting

namespace TargetConfig

open Setting

theorem ascii_of_all {texts : List String}
    (hall : (texts.all fun t => t.toList.all (·.toNat < 128)) = true) :
    ∀ t ∈ texts, ∀ c ∈ t.toList, c.toNat < 128 := by
  simpa using hall

/-- A type of settings whose spellings tell its values apart: all of them are ASCII texts in lower
case, and the label of a value is one of its spellings. -/
class LawfulSetting (α : Type) [Setting α] : Prop where
  find?_of_mem_spellings (a : α) : ∀ t ∈ spellings a,
    (Enumerated.values (α := α)).find? (fun b => (spellings b).contains t) = some a
  ascii_spellings (a : α) : ∀ t ∈ spellings a, ∀ c ∈ t.toList, c.toNat < 128
  label_mem_spellings (a : α) : Enumerated.label a ∈ spellings a
  lowerCase_label (a : α) : lowerCase (Enumerated.label a) = Enumerated.label a

instance : LawfulSetting CodeModel where
  find?_of_mem_spellings a := by cases a <;> decide
  ascii_spellings a := ascii_of_all (by cases a <;> decide)
  label_mem_spellings a := by cases a <;> decide
  lowerCase_label a := by cases a <;> decide

instance : LawfulSetting OptimizationLevel where
  find?_of_mem_spellings a := by cases a <;> decide
  ascii_spellings a := ascii_of_all (by cases a <;> decide)
  label_mem_spellings a := by cases a <;> decide
  lowerCase_label a := by cases a <;> decide

instance : LawfulSetting RelocationModel where
  find?_of_mem_spellings a := by cases a <;> decide
  ascii_spellings a := ascii_of_all (by cases a <;> decide)
  label_mem_spellings a := by cases a <;> decide
  lowerCase_label a := by cases a <;> decide

namespace Setting

variable {α : Type} [Setting α] [LawfulSetting α]

theorem ofFlag_eq_ok_iff_mem {s : String} {a : α} :
    ofFlag α s = .ok a ↔ lowerCase s ∈ spellings a := by
  constructor
  · intro hflag
    unfold ofFlag at hflag
    split at hflag
    next b hfound =>
      obtain rfl := Except.ok.inj hflag
      simpa using List.find?_some hfound
    next => contradiction
  · intro hmem
    rw [ofFlag, LawfulSetting.find?_of_mem_spellings a _ hmem]

theorem ofFlag_label (a : α) : ofFlag α (Enumerated.label a) = .ok a := by
  rw [ofFlag_eq_ok_iff_mem, LawfulSetting.lowerCase_label]
  exact LawfulSetting.label_mem_spellings a

/-- The case of a flag makes no difference to the value that it says. -/
theorem ofFlag_eq_ok_congr {s t : String} (hsame : SameUpToCase s t) (a : α) :
    ofFlag α s = .ok a ↔ ofFlag α t = .ok a := by
  rw [ofFlag_eq_ok_iff_mem, ofFlag_eq_ok_iff_mem, hsame.lowerCase_eq]

theorem unknown_of_not_ascii {s : String} {c : Char} (hmem : c ∈ s.toList) (hc : 128 ≤ c.toNat) :
    Unknown α s := by
  intro a hflag
  have hascii := LawfulSetting.ascii_spellings a _ (ofFlag_eq_ok_iff_mem.mp hflag) c
    (mem_lowerCase hmem hc)
  omega

end Setting

end TargetConfig
