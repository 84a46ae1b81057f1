import TargetConfig.Feature
import TargetConfig.Proofs.Text.Pieces

/-! # Feature lists and their texts

A feature string and the list of its toggles carry the same information, up to the one case that
both the empty list and the list of one empty entry make the empty string. Lists of well-formed
toggles are never in that case.
-/

namespace TargetConfig

open Text

/-! ## Joining and splitting -/

theorem toList_joinFeatures (features : List String) :
    (joinFeatures features).toList = join ',' (features.map String.toList) := by
  simp [joinFeatures]

theorem splitFeatures_of_ne {s : String} (hne : s ≠ "") :
    splitFeatures s = (split ',' s.toList).map String.ofList := by
  simp [splitFeatures, hne]

theorem joinFeatures_cons_cons (feature next : String) (rest : List String) :
    joinFeatures (feature :: next :: rest) = feature ++ "," ++ joinFeatures (next :: rest) := by
  apply String.toList_injective
  simp [toList_joinFeatures, join]

theorem joinFeatures_splitFeatures (s : String) : joinFeatures (splitFeatures s) = s := by
  by_cases hempty : s = ""
  · subst hempty
    rfl
  · rw [splitFeatures_of_ne hempty]
    simp [joinFeatures, List.map_map, Function.comp_def, join_split]

/-- Only the empty list and the one empty entry have the empty text. -/
theorem joinFeatures_eq_empty_iff (features : List String) :
    joinFeatures features = "" ↔ features = [] ∨ features = [""] := by
  constructor
  · intro hjoin
    have hlist : join ',' (features.map String.toList) = [] := by
      rw [← toList_joinFeatures, hjoin]
      rfl
    rcases features with _ | ⟨feature, _ | ⟨next, rest⟩⟩
    · exact Or.inl rfl
    · right
      have hfeature : feature.toList = [] := by simpa [join] using hlist
      rw [String.toList_eq_nil_iff.mp hfeature]
    · simp [join] at hlist
  · rintro (rfl | rfl) <;> rfl

theorem splitFeatures_joinFeatures {features : List String} (hne : features ≠ [""])
    (hcomma : ∀ feature ∈ features, ',' ∉ feature.toList) :
    splitFeatures (joinFeatures features) = features := by
  by_cases hnil : features = []
  · subst hnil
    rfl
  · have hjoin : joinFeatures features ≠ "" := by
      intro hempty
      rcases (joinFeatures_eq_empty_iff features).mp hempty with h | h
      · exact hnil h
      · exact hne h
    have hpieces : ∀ piece ∈ features.map String.toList, ',' ∉ piece := by
      intro piece hpiece
      obtain ⟨feature, hfeature, rfl⟩ := List.mem_map.mp hpiece
      exact hcomma feature hfeature
    rw [splitFeatures_of_ne hjoin, toList_joinFeatures, split_join (by simpa using hnil) hpieces]
    simp [List.map_map, Function.comp_def]

/-! ## Well-formed toggles -/

/-- A well-formed toggle: a sign and a name, which is not empty and has neither commas nor white
space in it. -/
def IsToggle (feature : String) : Prop :=
  ∃ sign name, feature.toList = sign :: name ∧ (sign = '+' ∨ sign = '-') ∧ name ≠ [] ∧
    ',' ∉ name ∧ ∀ c ∈ name, isBlank c = false

theorem fault?_eq_none_iff (feature : String) : fault? feature = none ↔ IsToggle feature := by
  unfold fault? IsToggle hasSign
  cases hfeature : feature.toList with
  | nil => simp
  | cons c name =>
      by_cases hsign : c = '+' ∨ c = '-'
      · have hbool : (decide (c = '+') || decide (c = '-')) = true := by simpa using hsign
        simp only [hbool, if_true, List.drop_succ_cons, List.drop_zero, List.cons.injEq]
        constructor
        · intro hfault
          split at hfault
          next => contradiction
          next hname =>
            split at hfault
            next => contradiction
            next hcomma =>
              split at hfault
              next => contradiction
              next hblank =>
                refine ⟨c, name, ⟨rfl, rfl⟩, hsign, by simpa using hname, by simpa using hcomma, ?_⟩
                simpa using hblank
        · rintro ⟨sign, name', ⟨rfl, rfl⟩, _, hname, hcomma, hblank⟩
          rw [if_neg (by simpa using hname), if_neg (by simpa using hcomma),
            if_neg (by simpa using hblank)]
      · have hbool : (decide (c = '+') || decide (c = '-')) = false := by simpa using hsign
        simp only [hbool, Bool.false_eq_true, if_false]
        constructor
        · intro hfault
          contradiction
        · rintro ⟨sign, name', heq, hsign', _⟩
          obtain ⟨rfl, rfl⟩ := List.cons.inj heq
          exact absurd hsign' hsign

theorem issuesFrom_eq_nil_iff (start : Nat) (features : List String) :
    issuesFrom start features = [] ↔ ∀ feature ∈ features, IsToggle feature := by
  induction features generalizing start with
  | nil => simp [issuesFrom]
  | cons feature rest ih =>
      unfold issuesFrom
      cases hfault : fault? feature with
      | none =>
          have htoggle := (fault?_eq_none_iff feature).mp hfault
          simp [ih, htoggle]
      | some fault =>
          have htoggle : ¬ IsToggle feature := by
            rw [← fault?_eq_none_iff, hfault]
            exact Option.some_ne_none fault
          simp [htoggle]

/-- A list has no issues when all of its entries are well-formed toggles. -/
theorem featureIssues_eq_nil_iff (features : List String) :
    featureIssues features = [] ↔ ∀ feature ∈ features, IsToggle feature :=
  issuesFrom_eq_nil_iff 0 features

theorem featureIssues_ne_nil_iff (features : List String) :
    featureIssues features ≠ [] ↔ ∃ feature ∈ features, ¬ IsToggle feature := by
  rw [Ne, featureIssues_eq_nil_iff]
  simp

theorem IsToggle.comma_not_mem {feature : String} (htoggle : IsToggle feature) :
    ',' ∉ feature.toList := by
  obtain ⟨sign, name, hfeature, hsign, _, hcomma, _⟩ := htoggle
  rw [hfeature]
  rcases hsign with rfl | rfl <;> simpa using hcomma

theorem IsToggle.ne_empty {feature : String} (htoggle : IsToggle feature) : feature ≠ "" := by
  rintro rfl
  obtain ⟨sign, name, hfeature, _⟩ := htoggle
  exact absurd hfeature (by simp)

/-- Well-formed toggles survive as a text. -/
theorem splitFeatures_joinFeatures_of_toggles {features : List String}
    (htoggles : ∀ feature ∈ features, IsToggle feature) :
    splitFeatures (joinFeatures features) = features := by
  apply splitFeatures_joinFeatures
  · rintro rfl
    exact (htoggles "" List.mem_cons_self).ne_empty rfl
  · intro feature hfeature
    exact (htoggles feature hfeature).comma_not_mem

end TargetConfig
