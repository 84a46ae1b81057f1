import TargetConfig.Arch.Spelling

/-! # The grammar of ARM spellings

The spellings of the four ARM and Thumb families are the two fixed ones and the texts of a small
grammar: `arm` or `thumb`, an optional `eb`, and an optional version. The mark of big-endian order
at the end is no part of this grammar. It belongs to the version, which may end in anything, and
taking it off never takes off a part of the version that has to be there.
-/

namespace TargetConfig.Arch

/-- The mark of big-endian order. -/
def bigEndianMark : List Char := ['e', 'b']

/-- What may follow `arm` or `thumb`: an optional mark of big-endian order, and then an optional
version, which is `v`, a digit and any characters at all. -/
def IsVariant (s : List Char) : Prop :=
  ∃ mark version, s = mark ++ version ∧ (mark = [] ∨ mark = bigEndianMark) ∧
    (version = [] ∨ ∃ digit rest, version = 'v' :: digit :: rest ∧ '0' ≤ digit ∧ digit ≤ '9')

/-- A text is a versioned spelling of an ARM or Thumb family. -/
def IsVersioned (s : List Char) : Prop :=
  ∃ head variant, (head = "arm".toList ∨ head = "thumb".toList) ∧ s = head ++ variant ∧
    IsVariant variant

/-! ## Versions -/

theorem isVersion_iff (s : List Char) :
    isVersion s = true ↔
      s = [] ∨ ∃ digit rest, s = 'v' :: digit :: rest ∧ '0' ≤ digit ∧ digit ≤ '9' := by
  constructor
  · intro hversion
    unfold isVersion at hversion
    split at hversion
    next => exact Or.inl rfl
    next digit rest =>
      refine Or.inr ⟨digit, rest, rfl, ?_⟩
      simpa [Char.isDigit, Char.le_def] using hversion
    next => contradiction
  · rintro (rfl | ⟨digit, rest, rfl, hlow, hhigh⟩)
    · rfl
    · simpa [isVersion, Char.isDigit, Char.le_def] using And.intro hlow hhigh

/-! ## The mark of big-endian order -/

theorem takeBigEndian_mark_append (rest : List Char) :
    takeBigEndian (bigEndianMark ++ rest) = (true, rest) := rfl

theorem takeBigEndian_append_mark {rest : List Char}
    (hfront : ¬ bigEndianMark <+: rest ++ bigEndianMark) :
    takeBigEndian (rest ++ bigEndianMark) = (true, rest) := by
  have hback : bigEndianMark <:+ rest ++ bigEndianMark := List.suffix_append rest bigEndianMark
  rw [← List.isPrefixOf_iff_prefix] at hfront
  rw [← List.isSuffixOf_iff_suffix] at hback
  unfold bigEndianMark at *
  rw [takeBigEndian, if_neg hfront, if_pos hback]
  simp

theorem takeBigEndian_unmarked {s : List Char} (hfront : ¬ bigEndianMark <+: s)
    (hback : ¬ bigEndianMark <:+ s) : takeBigEndian s = (false, s) := by
  rw [← List.isPrefixOf_iff_prefix] at hfront
  rw [← List.isSuffixOf_iff_suffix] at hback
  unfold bigEndianMark at *
  rw [takeBigEndian, if_neg hfront, if_neg hback]

theorem fst_takeBigEndian_iff (s : List Char) :
    (takeBigEndian s).1 = true ↔ bigEndianMark <+: s ∨ bigEndianMark <:+ s := by
  by_cases hfront : bigEndianMark <+: s
  · obtain ⟨rest, rfl⟩ := hfront
    simp [takeBigEndian_mark_append]
  · by_cases hback : bigEndianMark <:+ s
    · obtain ⟨rest, rfl⟩ := hback
      simp [takeBigEndian_append_mark hfront]
    · simp [takeBigEndian_unmarked hfront hback, hfront, hback]

/-- Without a mark in front, nothing but a version can follow `arm` or `thumb`. -/
theorem isVariant_iff_of_not_front {s : List Char} (hfront : ¬ bigEndianMark <+: s) :
    IsVariant s ↔ isVersion s = true := by
  rw [isVersion_iff]
  constructor
  · rintro ⟨mark, version, rfl, rfl | rfl, hversion⟩
    · exact hversion
    · exact absurd (List.prefix_append bigEndianMark version) hfront
  · exact fun hversion => ⟨[], s, rfl, Or.inl rfl, hversion⟩

theorem isVariant_mark_append_iff (rest : List Char) :
    IsVariant (bigEndianMark ++ rest) ↔ isVersion rest = true := by
  rw [isVersion_iff]
  constructor
  · rintro ⟨mark, version, hrest, rfl | rfl, hversion⟩
    · -- a version that begins like the mark is none
      rcases hversion with rfl | ⟨digit, tail, rfl, _⟩
      · simp [bigEndianMark] at hrest
      · simp [bigEndianMark] at hrest
    · rwa [List.append_cancel_left hrest]
  · exact fun hversion => ⟨bigEndianMark, rest, rfl, Or.inr rfl, hversion⟩

/-- Taking the mark off the end of a version leaves a version: neither `v` nor the digit behind it
is in the mark. The other way round, a version may end in anything. -/
theorem isVersion_append_mark_iff {rest : List Char} (hne : rest ≠ []) :
    isVersion (rest ++ bigEndianMark) = true ↔ isVersion rest = true := by
  obtain ⟨first, tail, rfl⟩ := List.exists_cons_of_ne_nil hne
  cases tail with
  | nil =>
      have hdigit : ('e').isDigit = false := by decide
      by_cases hfirst : first = 'v'
      · subst hfirst
        simp [isVersion, bigEndianMark, hdigit]
      · simp [isVersion, bigEndianMark, hfirst]
  | cons second tail =>
      by_cases hfirst : first = 'v'
      · subst hfirst
        rfl
      · simp [isVersion, hfirst]

/-- What is left without the mark is a version just when the whole follows the grammar. -/
theorem isVersion_takeBigEndian_iff (s : List Char) :
    isVersion (takeBigEndian s).2 = true ↔ IsVariant s := by
  by_cases hfront : bigEndianMark <+: s
  · obtain ⟨rest, rfl⟩ := hfront
    rw [takeBigEndian_mark_append, isVariant_mark_append_iff]
  · rw [isVariant_iff_of_not_front hfront]
    by_cases hback : bigEndianMark <:+ s
    · obtain ⟨rest, rfl⟩ := hback
      have hne : rest ≠ [] := by
        rintro rfl
        exact hfront List.prefix_rfl
      rw [takeBigEndian_append_mark hfront, isVersion_append_mark_iff hne]
    · rw [takeBigEndian_unmarked hfront hback]

/-! ## Families -/

theorem ofVersion_of_isVariant {little big : Arch} {s : List Char} (hvariant : IsVariant s) :
    ofVersion little big s = if (takeBigEndian s).1 then big else little := by
  rw [← isVersion_takeBigEndian_iff] at hvariant
  simp only [ofVersion, hvariant, if_true]

theorem ofVersion_of_not_isVariant {little big : Arch} {s : List Char}
    (hvariant : ¬ IsVariant s) : ofVersion little big s = unknown := by
  rw [← isVersion_takeBigEndian_iff] at hvariant
  simp only [ofVersion, if_neg hvariant]

theorem ofArmSpelling_of_not_isVersioned {s : List Char} (hversioned : ¬ IsVersioned s) :
    ofArmSpelling s = unknown := by
  unfold ofArmSpelling
  split
  next variant =>
    apply ofVersion_of_not_isVariant
    exact fun hvariant => hversioned ⟨_, variant, Or.inr rfl, rfl, hvariant⟩
  next variant =>
    apply ofVersion_of_not_isVariant
    exact fun hvariant => hversioned ⟨_, variant, Or.inl rfl, rfl, hvariant⟩
  next => rfl

/-- No fixed spelling is one of the grammar, so it does not matter that fixed ones come first. -/
theorem ofArmSpelling_fixed (arch : Arch) :
    ∀ spelling ∈ arch.spellings, ofArmSpelling spelling.toList = unknown := by
  cases arch <;> decide +kernel

theorem mem_spellings_of_ofFixedSpelling? {s : String} {arch : Arch}
    (hfixed : ofFixedSpelling? s.toList = some arch) : s ∈ arch.spellings := by
  have hmem := List.find?_some hfixed
  simpa using hmem

/-- The family of a versioned spelling: the head tells ARM from Thumb, and the mark the order of the
bytes. -/
theorem ofArmSpelling_append {head variant : List Char}
    (hhead : head = "arm".toList ∨ head = "thumb".toList) (hvariant : IsVariant variant) :
    ofArmSpelling (head ++ variant) =
      if head = "thumb".toList then if (takeBigEndian variant).1 then thumbeb else thumb
      else if (takeBigEndian variant).1 then armeb else arm := by
  rcases hhead with rfl | rfl
  · exact ofVersion_of_isVariant hvariant
  · exact ofVersion_of_isVariant hvariant

theorem isArm_ofArmSpelling {s : List Char} (hversioned : IsVersioned s) :
    (ofArmSpelling s).isArm = true := by
  obtain ⟨head, variant, hhead, rfl, hvariant⟩ := hversioned
  rw [ofArmSpelling_append hhead hvariant]
  split <;> split <;> rfl

theorem ofArmSpelling_ne_unknown {s : List Char} (hversioned : IsVersioned s) :
    ofArmSpelling s ≠ unknown := by
  intro hunknown
  have harm := isArm_ofArmSpelling hversioned
  rw [hunknown] at harm
  contradiction

theorem ofSpelling_of_isVersioned {s : String} (hversioned : IsVersioned s.toList) :
    ofSpelling s.toList = ofArmSpelling s.toList := by
  unfold ofSpelling
  cases hfixed : ofFixedSpelling? s.toList with
  | none => rfl
  | some arch =>
      have hspelling := mem_spellings_of_ofFixedSpelling? hfixed
      exact absurd (ofArmSpelling_fixed arch s hspelling) (ofArmSpelling_ne_unknown hversioned)

/-- Only two fixed spellings are of an ARM family. -/
theorem eq_xscale_of_mem_spellings {s : String} {arch : Arch} (hspelling : s ∈ arch.spellings)
    (harm : arch.isArm = true) : s = "xscale" ∨ s = "xscaleeb" := by
  cases arch <;> simp_all [spellings, isArm]

theorem isVersioned_or_mem_spellings {s : String} (hknown : ofSpelling s.toList ≠ unknown) :
    IsVersioned s.toList ∨ s ∈ (ofSpelling s.toList).spellings := by
  by_cases hversioned : IsVersioned s.toList
  · exact Or.inl hversioned
  · unfold ofSpelling at hknown ⊢
    cases hfixed : ofFixedSpelling? s.toList with
    | some arch => exact Or.inr (mem_spellings_of_ofFixedSpelling? hfixed)
    | none =>
        rw [hfixed, Option.getD_none] at hknown
        exact absurd (ofArmSpelling_of_not_isVersioned hversioned) hknown

/-- The ARM and Thumb families have the spellings of the grammar and the two fixed ones, and no
others. For a spelling of the grammar the head tells ARM from Thumb, and the order of the bytes is
big-endian just when the mark begins or ends what follows the head. A text that is neither of the
grammar nor a fixed spelling is of no family, and the fixed spellings of other families stay there.
-/
theorem isArm_ofSpelling_exact (s : String) :
    ((ofSpelling s.toList).isArm = true ↔
      s = "xscale" ∨ s = "xscaleeb" ∨ IsVersioned s.toList) ∧
    (∀ head variant, (head = "arm".toList ∨ head = "thumb".toList) → s.toList = head ++ variant →
      IsVariant variant →
        (ofSpelling s.toList ∈ [thumb, thumbeb] ↔ "thumb".toList <+: s.toList) ∧
        (ofSpelling s.toList ∈ [armeb, thumbeb] ↔
          bigEndianMark <+: variant ∨ bigEndianMark <:+ variant)) ∧
    (¬ IsVersioned s.toList → (∀ arch : Arch, s ∉ arch.spellings) → ofSpelling s.toList = unknown) ∧
    (∀ arch : Arch, s ∈ arch.spellings → (ofSpelling s.toList).isArm = true →
      s = "xscale" ∨ s = "xscaleeb") := by
  have hfamily : (ofSpelling s.toList).isArm = true →
      s = "xscale" ∨ s = "xscaleeb" ∨ IsVersioned s.toList := by
    intro harm
    have hknown : ofSpelling s.toList ≠ unknown := by
      intro hunknown
      rw [hunknown] at harm
      contradiction
    rcases isVersioned_or_mem_spellings hknown with hversioned | hspelling
    · exact Or.inr (Or.inr hversioned)
    · exact (eq_xscale_of_mem_spellings hspelling harm).imp_right Or.inl
  refine ⟨⟨hfamily, ?_⟩, ?_, ?_, ?_⟩
  · rintro (rfl | rfl | hversioned)
    · decide
    · decide
    · rw [ofSpelling_of_isVersioned hversioned]
      exact isArm_ofArmSpelling hversioned
  · intro head variant hhead hs hvariant
    rw [ofSpelling_of_isVersioned ⟨head, variant, hhead, hs, hvariant⟩, hs,
      ofArmSpelling_append hhead hvariant, ← fst_takeBigEndian_iff]
    rcases hhead with rfl | rfl <;> cases (takeBigEndian variant).1 <;> simp
  · intro hversioned hfixed
    by_cases hknown : ofSpelling s.toList = unknown
    · exact hknown
    · rcases isVersioned_or_mem_spellings hknown with hother | hspelling
      · exact absurd hother hversioned
      · exact absurd hspelling (hfixed _)
  · intro arch hspelling harm
    rcases hfamily harm with hxscale | hxscaleeb | hversioned
    · exact Or.inl hxscale
    · exact Or.inr hxscaleeb
    · exact absurd (ofArmSpelling_fixed arch s hspelling) (ofArmSpelling_ne_unknown hversioned)

/-- The mark may stand on either side of a version, but not between `v` and its digit, and it is no
version itself. -/
example : (["armv7eb", "armebv7", "armv7ebeb", "armebeb", "armveb"].map fun s =>
    ofSpelling s.toList) = [armeb, armeb, armeb, unknown, unknown] := by decide +kernel

end TargetConfig.Arch
