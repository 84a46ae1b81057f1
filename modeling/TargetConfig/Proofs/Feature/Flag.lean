import Mathlib.Data.List.DropRight
import TargetConfig.Proofs.Feature.Toggles

/-! # Feature flags

A flag gives the texts between its commas, without white space at their ends and without those of
which nothing is left. So a comma puts two flags together, white space around a flag makes no
difference, and giving the features of a flag again, with commas between them, gives the same
features.
-/

namespace TargetConfig

open Text

/-! ## White space at the ends -/

/-- Nothing but white space. -/
def IsWhite (s : String) : Prop := ∀ c ∈ s.toList, isBlank c

/-- Something that neither begins nor ends with white space. -/
structure IsTrimmed (s : String) : Prop where
  first : ∃ c, s.toList.head? = some c ∧ isBlank c = false
  last : ∃ c, s.toList.getLast? = some c ∧ isBlank c = false

namespace Text

theorem trim_eq_rdropWhile (s : List Char) :
    trim s = (s.dropWhile isBlank).rdropWhile isBlank := rfl

theorem trim_blank_append {white : List Char} (hwhite : ∀ c ∈ white, isBlank c) (s : List Char) :
    trim (white ++ s) = trim s := by
  rw [trim_eq_rdropWhile, List.dropWhile_append_of_pos hwhite, ← trim_eq_rdropWhile]

theorem trim_append_blank {white : List Char} (hwhite : ∀ c ∈ white, isBlank c) (s : List Char) :
    trim (s ++ white) = trim s := by
  unfold trim
  rw [List.dropWhile_append]
  split
  next hempty =>
    have hnone : white.dropWhile isBlank = [] := by simpa using hwhite
    rw [hnone, List.isEmpty_iff.mp hempty]
  next =>
    have hreverse : ∀ c ∈ white.reverse, isBlank c := by simpa using hwhite
    rw [List.reverse_append, List.dropWhile_append_of_pos hreverse]

/-- A text is what trimming leaves of it, with white space around. -/
theorem eq_append_trim (s : List Char) :
    s = s.takeWhile isBlank ++ trim s ++ (s.dropWhile isBlank).rtakeWhile isBlank := by
  rw [trim_eq_rdropWhile, List.append_assoc, List.rdropWhile_append_rtakeWhile,
    List.takeWhile_append_dropWhile]

end Text

theorem IsTrimmed.ne_empty {s : String} (htrimmed : IsTrimmed s) : s ≠ "" := by
  rintro rfl
  obtain ⟨c, hfirst, _⟩ := htrimmed.first
  contradiction

theorem IsTrimmed.trim_eq {s : String} (htrimmed : IsTrimmed s) : trim s.toList = s.toList := by
  obtain ⟨first, hfirst, hblank⟩ := htrimmed.first
  obtain ⟨last, hlast, hblank'⟩ := htrimmed.last
  obtain ⟨rest, hrest⟩ := List.head?_eq_some_iff.mp hfirst
  obtain ⟨init, hinit⟩ := List.getLast?_eq_some_iff.mp hlast
  have hfront : s.toList.dropWhile isBlank = s.toList := by
    rw [hrest, List.dropWhile_cons_of_neg (by simp [hblank])]
  rw [trim_eq_rdropWhile, hfront, hinit, List.rdropWhile_concat_neg _ _ _ (by simp [hblank'])]

/-- What trimming leaves has no white space at its ends. -/
theorem isTrimmed_trim {s : List Char} (hne : trim s ≠ []) :
    IsTrimmed (String.ofList (trim s)) := by
  constructor
  · obtain ⟨first, rest, hkept⟩ := List.exists_cons_of_ne_nil hne
    obtain ⟨back, hback⟩ : trim s <+: s.dropWhile isBlank := List.rdropWhile_prefix isBlank _
    have hdrop := List.head?_dropWhile_not isBlank s
    rw [← hback, hkept] at hdrop
    exact ⟨first, by simp [hkept], hdrop⟩
  · refine ⟨(trim s).getLast hne, ?_, ?_⟩
    · rw [String.toList_ofList, List.getLast?_eq_some_getLast hne]
    · exact Bool.not_eq_true _ ▸ List.rdropWhile_last_not isBlank (s.dropWhile isBlank) hne

/-! ## What flags give -/

/-- Entries with commas between them. -/
inductive CommaList : List String → String → Prop
  | nil : CommaList [] ""
  | single (entry : String) : CommaList [entry] entry
  | cons (entry : String) {next : String} {rest : List String} {text : String}
      (hrest : CommaList (next :: rest) text) :
      CommaList (entry :: next :: rest) (entry ++ "," ++ text)

/-- What is kept of pieces of a text, one after the other: of each what stands between the white
space at its ends, if it is not all white space. -/
inductive Kept : List String → List String → Prop
  | nil : Kept [] []
  | white {piece : String} {pieces features : List String} (hwhite : IsWhite piece)
      (hrest : Kept pieces features) : Kept (piece :: pieces) features
  | trimmed {front feature back : String} {pieces features : List String}
      (hfront : IsWhite front) (htrimmed : IsTrimmed feature) (hback : IsWhite back)
      (hrest : Kept pieces features) :
      Kept ((front ++ feature ++ back) :: pieces) (feature :: features)

/-- The features that a flag gives: what is kept of the pieces between its commas. -/
def FlagFeatures (flag : String) (features : List String) : Prop :=
  ∃ pieces, CommaList pieces flag ∧ (∀ piece ∈ pieces, ',' ∉ piece.toList) ∧ Kept pieces features

theorem commaList_iff {entries : List String} {text : String} :
    CommaList entries text ↔ text = joinFeatures entries := by
  constructor
  · intro hlist
    induction hlist with
    | nil => rfl
    | single entry => simp [joinFeatures, join]
    | cons entry _ ih => rw [joinFeatures_cons_cons, ih]
  · rintro rfl
    induction entries with
    | nil => exact .nil
    | cons entry rest ih =>
        cases rest with
        | nil => simpa [joinFeatures, join] using CommaList.single entry
        | cons next rest =>
            rw [joinFeatures_cons_cons]
            exact .cons entry ih

theorem trim_of_isWhite {piece : String} (hwhite : IsWhite piece) : trim piece.toList = [] := by
  simpa [trim] using trim_blank_append hwhite []

theorem trim_of_isTrimmed {front feature back : String} (hfront : IsWhite front)
    (htrimmed : IsTrimmed feature) (hback : IsWhite back) :
    trim (front ++ feature ++ back).toList = feature.toList := by
  rw [String.toList_append, trim_append_blank hback, String.toList_append,
    trim_blank_append hfront, htrimmed.trim_eq]

/-- A text is all white space, or something with white space around. -/
theorem isWhite_or_exists_trimmed (piece : String) :
    IsWhite piece ∨ ∃ front feature back, piece = front ++ feature ++ back ∧ IsWhite front ∧
      IsTrimmed feature ∧ IsWhite back := by
  let front := piece.toList.takeWhile isBlank
  let back := (piece.toList.dropWhile isBlank).rtakeWhile isBlank
  have hfront : ∀ c ∈ front, isBlank c := fun _ => List.mem_takeWhile_imp
  have hback : ∀ c ∈ back, isBlank c := fun _ => List.mem_rtakeWhile_imp
  have happend : piece.toList = front ++ trim piece.toList ++ back := eq_append_trim piece.toList
  by_cases hempty : trim piece.toList = []
  · left
    intro c hc
    rw [happend, hempty, List.append_nil] at hc
    exact (List.mem_append.mp hc).elim (hfront c) (hback c)
  · right
    refine ⟨String.ofList front, String.ofList (trim piece.toList), String.ofList back, ?_,
      by simpa [IsWhite] using hfront, isTrimmed_trim hempty, by simpa [IsWhite] using hback⟩
    apply String.toList_injective
    simpa using happend

/-- What is kept of pieces, computed. -/
def trimPieces (pieces : List String) : List String :=
  ((pieces.map fun piece => trim piece.toList).filter (!·.isEmpty)).map String.ofList

theorem trimPieces_white {piece : String} (hwhite : IsWhite piece) (pieces : List String) :
    trimPieces (piece :: pieces) = trimPieces pieces := by
  simp [trimPieces, trim_of_isWhite hwhite]

theorem trimPieces_trimmed {front feature back : String} (hfront : IsWhite front)
    (htrimmed : IsTrimmed feature) (hback : IsWhite back) (pieces : List String) :
    trimPieces ((front ++ feature ++ back) :: pieces) = feature :: trimPieces pieces := by
  rw [trimPieces, List.map_cons, trim_of_isTrimmed hfront htrimmed hback,
    List.filter_cons_of_pos (by simpa using htrimmed.ne_empty), List.map_cons, String.ofList_toList]
  rfl

theorem kept_iff {pieces features : List String} :
    Kept pieces features ↔ features = trimPieces pieces := by
  constructor
  · intro hkept
    induction hkept with
    | nil => rfl
    | white hwhite _ ih => rw [trimPieces_white hwhite, ih]
    | trimmed hfront htrimmed hback _ ih => rw [trimPieces_trimmed hfront htrimmed hback, ih]
  · rintro rfl
    induction pieces with
    | nil => exact .nil
    | cons piece pieces ih =>
        rcases isWhite_or_exists_trimmed piece with
          hwhite | ⟨front, feature, back, rfl, hfront, htrimmed, hback⟩
        · rw [trimPieces_white hwhite]
          exact .white hwhite ih
        · rw [trimPieces_trimmed hfront htrimmed hback]
          exact .trimmed hfront htrimmed hback ih

theorem flagFeatures_iff (flag : String) (features : List String) :
    FlagFeatures flag features ↔ features = featuresOfFlag flag := by
  constructor
  · rintro ⟨pieces, hlist, hcomma, hkept⟩
    rw [kept_iff.mp hkept, featuresOfFlag, commaList_iff.mp hlist, toList_joinFeatures]
    by_cases hnil : pieces = []
    · rw [hnil]
      rfl
    · rw [split_join (by simpa using hnil) (List.forall_mem_map.mpr hcomma), List.map_map]
      rfl
  · rintro rfl
    refine ⟨(split ',' flag.toList).map String.ofList, ?_, ?_, ?_⟩
    · apply commaList_iff.mpr
      apply String.toList_injective
      simp [toList_joinFeatures, Function.comp_def, join_split]
    · refine List.forall_mem_map.mpr ?_
      intro piece hpiece
      rw [String.toList_ofList]
      exact not_mem_of_mem_split hpiece
    · apply kept_iff.mpr
      simp [trimPieces, featuresOfFlag, Function.comp_def]

/-! ## Giving features again -/

/-- A text that a flag can give as one of its features: nothing of it is lost at a comma or as white
space. -/
structure IsFlagFeature (feature : String) : Prop where
  isTrimmed : IsTrimmed feature
  comma_not_mem : ',' ∉ feature.toList

theorem IsToggle.isFlagFeature {feature : String} (htoggle : IsToggle feature) :
    IsFlagFeature feature := by
  refine ⟨?_, htoggle.comma_not_mem⟩
  obtain ⟨sign, name, hfeature, hsign, hname, _, hblank⟩ := htoggle
  constructor
  · refine ⟨sign, by rw [hfeature, List.head?_cons], ?_⟩
    rcases hsign with rfl | rfl <;> rfl
  · refine ⟨name.getLast hname, ?_, hblank _ (List.getLast_mem hname)⟩
    rw [hfeature, List.getLast?_cons_of_ne_nil hname, List.getLast?_eq_some_getLast hname]

theorem Kept.isFlagFeature {pieces features : List String} (hkept : Kept pieces features)
    (hcomma : ∀ piece ∈ pieces, ',' ∉ piece.toList) :
    ∀ feature ∈ features, IsFlagFeature feature := by
  induction hkept with
  | nil => simp
  | white _ _ ih => exact ih fun piece hpiece => hcomma piece (List.mem_cons_of_mem _ hpiece)
  | trimmed _ htrimmed _ _ ih =>
      refine List.forall_mem_cons.mpr ⟨⟨htrimmed, ?_⟩, ?_⟩
      · have hpiece := hcomma _ List.mem_cons_self
        simp only [String.toList_append, List.mem_append, not_or] at hpiece
        exact hpiece.1.2
      · exact ih fun piece hpiece => hcomma piece (List.mem_cons_of_mem _ hpiece)

theorem isFlagFeature_of_mem {flag feature : String} (hfeature : feature ∈ featuresOfFlag flag) :
    IsFlagFeature feature := by
  obtain ⟨pieces, _, hcomma, hkept⟩ := (flagFeatures_iff flag _).mpr rfl
  exact hkept.isFlagFeature hcomma feature hfeature

theorem kept_self {features : List String} (hfeatures : ∀ feature ∈ features, IsTrimmed feature) :
    Kept features features := by
  induction features with
  | nil => exact .nil
  | cons feature rest ih =>
      obtain ⟨htrimmed, hrest⟩ := List.forall_mem_cons.mp hfeatures
      have hnothing : IsWhite "" := by simp [IsWhite]
      simpa using Kept.trimmed hnothing htrimmed hnothing (ih hrest)

/-- A flag with such texts between its commas gives exactly these texts. -/
theorem featuresOfFlag_joinFeatures {features : List String}
    (hfeatures : ∀ feature ∈ features, IsFlagFeature feature) :
    featuresOfFlag (joinFeatures features) = features := by
  symm
  apply (flagFeatures_iff _ _).mp
  exact ⟨features, commaList_iff.mpr rfl, fun feature hfeature =>
    (hfeatures feature hfeature).comma_not_mem, kept_self fun feature hfeature =>
    (hfeatures feature hfeature).isTrimmed⟩

/-- A flag with well-formed toggles between its commas gives exactly these toggles. -/
theorem featuresOfFlag_joinFeatures_of_toggles {features : List String}
    (htoggles : ∀ feature ∈ features, IsToggle feature) :
    featuresOfFlag (joinFeatures features) = features :=
  featuresOfFlag_joinFeatures fun feature hfeature => (htoggles feature hfeature).isFlagFeature

/-- The features of a flag are given by the flag that lists them. -/
theorem featuresOfFlag_normalized (flag : String) :
    featuresOfFlag (joinFeatures (featuresOfFlag flag)) = featuresOfFlag flag :=
  featuresOfFlag_joinFeatures fun _ => isFlagFeature_of_mem

/-! ## White space in flags -/

theorem IsWhite.comma_not_mem {white : String} (hwhite : IsWhite white) : ',' ∉ white.toList := by
  intro hcomma
  exact absurd (hwhite ',' hcomma) (by decide)

theorem featuresOfFlag_append_comma (first second : String) :
    featuresOfFlag (first ++ "," ++ second) = featuresOfFlag first ++ featuresOfFlag second := by
  have hcomma : (first ++ "," ++ second).toList = first.toList ++ ',' :: second.toList := by simp
  simp [featuresOfFlag, hcomma, split_append_sep]

theorem featuresOfFlag_white {white : String} (hwhite : IsWhite white) :
    featuresOfFlag white = [] := by
  simp [featuresOfFlag, split_of_not_mem hwhite.comma_not_mem, trim_of_isWhite hwhite]

theorem featuresOfFlag_white_append {white : String} (hwhite : IsWhite white) (flag : String) :
    featuresOfFlag (white ++ flag) = featuresOfFlag flag := by
  obtain ⟨piece, pieces, hsplit, happend⟩ := split_append_left hwhite.comma_not_mem flag.toList
  rw [featuresOfFlag, featuresOfFlag, String.toList_append, hsplit, happend, List.map_cons,
    List.map_cons, trim_blank_append hwhite]

theorem featuresOfFlag_append_white {white : String} (hwhite : IsWhite white) (flag : String) :
    featuresOfFlag (flag ++ white) = featuresOfFlag flag := by
  obtain ⟨pieces, piece, hsplit, happend⟩ := split_append_right hwhite.comma_not_mem flag.toList
  rw [featuresOfFlag, featuresOfFlag, String.toList_append, hsplit, happend, List.map_append,
    List.map_append, List.map_singleton, List.map_singleton, trim_append_blank hwhite]

end TargetConfig
