import TargetConfig.Proofs.Feature.Toggles

/-! # What is reported about a feature list

Every entry that is no toggle is reported once, under its position and with the first rule that it
breaks, and nothing else is reported. The report on two lists after one another is made of the
reports on each.

The name of an entry is what stands after its first byte. That a character starts there is because
every sign is one byte long, whatever the characters of the name are.
-/

namespace TargetConfig

open Text

/-! ## The name after the sign -/

theorem hasSign_iff (feature : String) :
    hasSign feature = true ↔
      ∃ sign name, feature.toList = sign :: name ∧ (sign = '+' ∨ sign = '-') := by
  unfold hasSign
  cases feature.toList with
  | nil => simp
  | cons sign name => simp

/-- In an entry with a sign the second byte begins a character or is past the end, and the bytes
from there on are those of the name. -/
theorem name_of_hasSign {feature : String} (hsign : hasSign feature = true) :
    String.Pos.Raw.IsValid feature ⟨1⟩ ∧
      feature.toByteArray.extract 1 feature.utf8ByteSize =
        (String.ofList (feature.toList.drop 1)).toByteArray := by
  obtain ⟨sign, name, hfeature, hplus⟩ := (hasSign_iff feature).mp hsign
  have hsize : (String.singleton sign).utf8ByteSize = 1 := by
    rcases hplus with rfl | rfl <;> rfl
  have happend : feature = String.singleton sign ++ String.ofList name := by
    apply String.toList_injective
    simp [hfeature]
  constructor
  · apply String.Pos.Raw.isValid_iff_exists_append.mpr
    refine ⟨String.singleton sign, String.ofList name, happend, ?_⟩
    exact String.Pos.Raw.ext hsize.symm
  · rw [hfeature, List.drop_one, List.tail_cons, happend, String.toByteArray_append]
    apply ByteArray.extract_append_eq_right
    · rw [String.size_toByteArray, hsize]
    · rw [String.utf8ByteSize_append, String.size_toByteArray, String.size_toByteArray, hsize]

/-! ## One entry -/

/-- The first of four rules that an entry breaks, and the message about it. -/
inductive FirstFault (feature : String) : FeatureFault → String → Prop
  | noSign (hsign : ∀ sign name, feature.toList = sign :: name → sign ≠ '+' ∧ sign ≠ '-') :
      FirstFault feature .noSign ("feature '" ++ feature ++ "' must start with '+' or '-'")
  | noName {sign : Char} (hfeature : feature.toList = [sign]) (hsign : sign = '+' ∨ sign = '-') :
      FirstFault feature .noName ("feature '" ++ feature ++ "' has no name")
  | comma {sign : Char} {name : List Char} (hfeature : feature.toList = sign :: name)
      (hsign : sign = '+' ∨ sign = '-') (hcomma : ',' ∈ name) :
      FirstFault feature .comma ("feature '" ++ feature ++ "' contains ','")
  | blank {sign : Char} {name : List Char} (hfeature : feature.toList = sign :: name)
      (hsign : sign = '+' ∨ sign = '-') (hcomma : ',' ∉ name) (hblank : ∃ c ∈ name, isBlank c) :
      FirstFault feature .blank ("feature '" ++ feature ++ "' contains whitespace")

theorem firstFault_of_fault? {feature : String} {fault : FeatureFault}
    (hfault : fault? feature = some fault) : FirstFault feature fault (fault.message feature) := by
  unfold fault? at hfault
  split at hfault
  next hsigned =>
    obtain ⟨sign, name, hfeature, hsign⟩ := (hasSign_iff feature).mp hsigned
    simp only [hfeature, List.drop_one, List.tail_cons] at hfault
    -- the tests after that of the sign, in the order in which they are made
    split at hfault
    next hname =>
      obtain rfl := Option.some.inj hfault
      rw [List.isEmpty_iff.mp hname] at hfeature
      exact .noName hfeature hsign
    next =>
      split at hfault
      next hcomma =>
        obtain rfl := Option.some.inj hfault
        exact .comma hfeature hsign (by simpa using hcomma)
      next hcomma =>
        split at hfault
        next hblank =>
          obtain rfl := Option.some.inj hfault
          exact .blank hfeature hsign (by simpa using hcomma) (by simpa using hblank)
        next => contradiction
  next hunsigned =>
    obtain rfl := Option.some.inj hfault
    apply FirstFault.noSign
    intro sign name hfeature
    rw [← not_or]
    intro hsign
    exact hunsigned ((hasSign_iff feature).mpr ⟨sign, name, hfeature, hsign⟩)

/-! ## All entries -/

/-- The first entry is reported under the position that the list starts at. -/
theorem mem_issuesFrom_cons {start : Nat} {feature : String} {rest : List String}
    {issue : FeatureIssue} :
    issue ∈ issuesFrom start (feature :: rest) ↔
      (issue.index = start ∧ issue.feature = feature ∧ fault? feature = some issue.fault) ∨
        issue ∈ issuesFrom (start + 1) rest := by
  rw [issuesFrom]
  cases hfault : fault? feature with
  | none => simp
  | some fault =>
      rw [List.mem_cons]
      apply or_congr_left
      constructor
      · rintro rfl
        exact ⟨rfl, rfl, rfl⟩
      · rintro ⟨rfl, rfl, hissue⟩
        obtain rfl := Option.some.inj hissue
        rfl

theorem mem_issuesFrom_iff {start : Nat} {features : List String} {issue : FeatureIssue} :
    issue ∈ issuesFrom start features ↔
      ∃ position, issue.index = start + position ∧ features[position]? = some issue.feature ∧
        fault? issue.feature = some issue.fault := by
  induction features generalizing start with
  | nil => simp [issuesFrom]
  | cons feature rest ih =>
      rw [mem_issuesFrom_cons, ih]
      constructor
      · rintro (⟨hindex, rfl, hfault⟩ | ⟨position, hindex, hfeature, hfault⟩)
        · exact ⟨0, hindex, rfl, hfault⟩
        · exact ⟨position + 1, by omega, hfeature, hfault⟩
      · rintro ⟨position, hindex, hfeature, hfault⟩
        cases position with
        | zero =>
            obtain rfl := Option.some.inj hfeature
            exact Or.inl ⟨hindex, rfl, hfault⟩
        | succ position => exact Or.inr ⟨position, by omega, hfeature, hfault⟩

/-- The positions in a report ascend, so that no entry is reported twice. -/
theorem pairwise_index_issuesFrom (start : Nat) (features : List String) :
    ((issuesFrom start features).map FeatureIssue.index).Pairwise (· < ·) := by
  induction features generalizing start with
  | nil => simp [issuesFrom]
  | cons feature rest ih =>
      unfold issuesFrom
      split
      next =>
        rw [List.map_cons, List.pairwise_cons]
        refine ⟨?_, ih (start + 1)⟩
        intro index hindex
        obtain ⟨issue, hissue, rfl⟩ := List.mem_map.mp hindex
        obtain ⟨position, hposition, _⟩ := mem_issuesFrom_iff.mp hissue
        dsimp only
        omega
      next => exact ih (start + 1)

/-- The same issue in a list that has more entries before it. -/
def FeatureIssue.later (count : Nat) (issue : FeatureIssue) : FeatureIssue :=
  { issue with index := count + issue.index }

theorem issuesFrom_add (count start : Nat) (features : List String) :
    issuesFrom (count + start) features = (issuesFrom start features).map (.later count) := by
  induction features generalizing start with
  | nil => rfl
  | cons feature rest ih =>
      unfold issuesFrom
      rw [Nat.add_assoc, ih]
      cases fault? feature <;> rfl

theorem issuesFrom_append (start : Nat) (first second : List String) :
    issuesFrom start (first ++ second) =
      issuesFrom start first ++ issuesFrom (start + first.length) second := by
  induction first generalizing start with
  | nil => rfl
  | cons feature rest ih =>
      rw [List.cons_append, issuesFrom, issuesFrom, ih, List.length_cons, Nat.add_assoc,
        Nat.add_comm 1]
      cases fault? feature <;> rfl

theorem featureIssues_append (first second : List String) :
    featureIssues (first ++ second) =
      featureIssues first ++ (featureIssues second).map (.later first.length) := by
  unfold featureIssues
  rw [issuesFrom_append, Nat.zero_add, ← issuesFrom_add, Nat.add_zero]

/-- The positions that are reported are those of the entries that are no toggles. -/
theorem mem_index_featureIssues_iff (features : List String) (index : Nat) :
    index ∈ (featureIssues features).map FeatureIssue.index ↔
      ∃ feature, features[index]? = some feature ∧ ¬ IsToggle feature := by
  unfold featureIssues
  constructor
  · intro hindex
    obtain ⟨issue, hissue, rfl⟩ := List.mem_map.mp hindex
    obtain ⟨position, hposition, hfeature, hfault⟩ := mem_issuesFrom_iff.mp hissue
    rw [Nat.zero_add] at hposition
    refine ⟨issue.feature, hposition ▸ hfeature, ?_⟩
    rw [← fault?_eq_none_iff, hfault]
    exact Option.some_ne_none _
  · rintro ⟨feature, hfeature, htoggle⟩
    rw [← fault?_eq_none_iff] at htoggle
    obtain ⟨fault, hfault⟩ := Option.ne_none_iff_exists'.mp htoggle
    apply List.mem_map.mpr
    refine ⟨⟨index, feature, fault⟩, ?_, rfl⟩
    exact mem_issuesFrom_iff.mpr ⟨index, (Nat.zero_add index).symm, hfeature, hfault⟩

/-- A feature list is accepted just when every entry is a toggle. Otherwise each other entry is
reported once, in order, under its position and with the message about the first rule that it
breaks. What is looked at after a sign always begins at a character, and the report on a list of two
parts is that on the first followed by that on the second, moved along. -/
theorem featureIssues_exact (features : List String) :
    (featureIssues features = [] ↔ ∀ feature ∈ features, IsToggle feature) ∧
    ((featureIssues features).map FeatureIssue.index).Pairwise (· < ·) ∧
    (∀ index, index ∈ (featureIssues features).map FeatureIssue.index ↔
      ∃ feature, features[index]? = some feature ∧ ¬ IsToggle feature) ∧
    (∀ issue ∈ featureIssues features, ∃ feature, features[issue.index]? = some feature ∧
      FirstFault feature issue.fault issue.message) ∧
    (∀ feature, hasSign feature = true → String.Pos.Raw.IsValid feature ⟨1⟩ ∧
      feature.toByteArray.extract 1 feature.utf8ByteSize =
        (String.ofList (feature.toList.drop 1)).toByteArray) ∧
    ∀ more, featureIssues (features ++ more) =
      featureIssues features ++ (featureIssues more).map (.later features.length) := by
  refine ⟨featureIssues_eq_nil_iff features, pairwise_index_issuesFrom 0 features,
    mem_index_featureIssues_iff features, ?_, fun _ => name_of_hasSign,
    featureIssues_append features⟩
  intro issue hissue
  obtain ⟨position, hposition, hfeature, hfault⟩ := mem_issuesFrom_iff.mp hissue
  rw [Nat.zero_add] at hposition
  exact ⟨issue.feature, hposition ▸ hfeature, firstFault_of_fault? hfault⟩

end TargetConfig
