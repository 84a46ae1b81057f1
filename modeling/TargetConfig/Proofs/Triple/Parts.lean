import TargetConfig.Proofs.Text.Limited
import TargetConfig.Triple

/-! # The parts of a triple

Splitting a triple at its first three hyphens loses nothing of its text. Parts that are missing look
like parts that are empty, so two texts have the same parts just when they are equal up to the
hyphens that are missing at their ends. The architecture is read off the first part alone.
-/

namespace TargetConfig

open Text

namespace Triple

/-- The parts of a triple in the order of its text. -/
def components (triple : Triple) : List String :=
  [triple.archName, triple.vendor, triple.os] ++ triple.environment.toList

/-- The text with as many hyphens added to its end as it takes to have two. -/
def withTwoHyphens (s : String) : String :=
  s ++ String.ofList (List.replicate (2 - s.toList.count '-') '-')

/-- The parts of a triple are those of a text. -/
structure PartsOf (s : String) (triple : Triple) : Prop where
  hyphen_not_mem : ∀ part ∈ [triple.archName, triple.vendor, triple.os], '-' ∉ part.toList
  isSome_environment_iff : triple.environment.isSome = true ↔ 3 ≤ s.toList.count '-'
  /-- The environment has all hyphens that are left. -/
  count_environment : ∀ environment, triple.environment = some environment →
    environment.toList.count '-' = s.toList.count '-' - 3
  /-- The parts that are there make the text again. -/
  join_take : join '-' ((triple.components.take (min (s.toList.count '-') 3 + 1)).map
    String.toList) = s.toList
  /-- The parts that are missing are empty. -/
  eq_empty_of_mem_drop : ∀ part ∈ triple.components.drop (min (s.toList.count '-') 3 + 1), part = ""

/-! ## Parts as pieces of the text -/

/-- There are at least three parts; those that are missing in the text are empty. -/
theorem map_toList_components (s : String) :
    (ofString s).components.map String.toList = (splitAtMost '-' 3 s.toList).rightpad 3 [] := by
  simp only [ofString, splitAtMost]
  rcases cut '-' s.toList with ⟨archName, _ | afterArch⟩
  · simp [nextPart, components, List.rightpad]
  · rcases hvendor : cut '-' afterArch with ⟨vendor, _ | afterVendor⟩
    · simp [nextPart, components, hvendor, List.rightpad]
    · rcases hos : cut '-' afterVendor with ⟨os, _ | environment⟩
      · simp [nextPart, components, hvendor, hos, List.rightpad]
      · simp [nextPart, components, hvendor, hos, List.rightpad]

theorem arch_eq_ofSpelling (s : String) :
    (ofString s).arch = Arch.ofSpelling (ofString s).archName.toList := by
  simp [ofString]

/-- Triples whose architecture is that of their first part are equal if their parts are. -/
theorem eq_of_components_eq {first second : Triple}
    (hfirst : first.arch = Arch.ofSpelling first.archName.toList)
    (hsecond : second.arch = Arch.ofSpelling second.archName.toList)
    (hparts : first.components = second.components) : first = second := by
  obtain ⟨arch, archName, vendor, os, environment⟩ := first
  obtain ⟨otherArch, otherName, otherVendor, otherOs, otherEnvironment⟩ := second
  simp only [components, List.cons_append, List.nil_append, List.cons.injEq] at hparts
  obtain ⟨rfl, rfl, rfl, hlist⟩ := hparts
  have henvironment : environment = otherEnvironment := by
    rw [← environment.head?_toList, hlist, Option.head?_toList]
  rw [mk.injEq]
  exact ⟨hfirst.trans hsecond.symm, rfl, rfl, rfl, henvironment⟩

theorem hyphen_not_mem_of_mem_take {s : String} {part : List Char}
    (hpart : part ∈ ((ofString s).components.map String.toList).take 3) : '-' ∉ part := by
  rw [map_toList_components, List.rightpad, List.take_append, List.mem_append] at hpart
  rcases hpart with hpiece | hempty
  · exact not_mem_of_mem_take hpiece
  · rw [List.eq_of_mem_replicate (List.mem_of_mem_take hempty)]
    exact List.not_mem_nil

theorem isSome_environment_ofString_iff (s : String) :
    (ofString s).environment.isSome = true ↔ 3 ≤ s.toList.count '-' := by
  have hlength := congrArg List.length (map_toList_components s)
  rw [List.length_map, List.rightpad, List.length_append, List.length_replicate,
    length_splitAtMost] at hlength
  cases henvironment : (ofString s).environment with
  | none =>
      simp only [components, henvironment, Option.toList_none, List.length_append, List.length_cons,
        List.length_nil] at hlength
      simp only [Option.isSome_none, Bool.false_eq_true, false_iff]
      omega
  | some environment =>
      simp only [components, henvironment, Option.toList_some, List.length_append, List.length_cons,
        List.length_nil] at hlength
      simp only [Option.isSome_some, true_iff]
      omega

theorem partsOf_ofString (s : String) : PartsOf s (ofString s) := by
  have hparts := map_toList_components s
  have hlength : (splitAtMost '-' 3 s.toList).length = min (s.toList.count '-') 3 + 1 :=
    length_splitAtMost 3 s.toList
  refine ⟨?_, isSome_environment_ofString_iff s, ?_, ?_, ?_⟩
  · intro part hpart
    apply hyphen_not_mem_of_mem_take (s := s)
    exact List.mem_map_of_mem hpart
  · intro environment henvironment
    have hmany := (isSome_environment_ofString_iff s).mp (by rw [henvironment]; rfl)
    have hlast : (splitAtMost '-' 3 s.toList)[3]? = some environment.toList := by
      rw [← List.getElem?_append_left (by omega), ← List.rightpad, ← hparts]
      simp [components, henvironment]
    have hcount := count_of_getElem?_splitAtMost hlast
    omega
  · rw [List.map_take, hparts, List.rightpad, List.take_left' hlength, join_splitAtMost]
  · intro part hpart
    have hmem := List.mem_map_of_mem (f := String.toList) hpart
    rw [List.map_drop, hparts, List.rightpad, List.drop_left' hlength] at hmem
    exact String.toList_eq_nil_iff.mp (List.eq_of_mem_replicate hmem)

/-! ## Texts with the same parts -/

/-- Empty pieces at the end are separators at the end. -/
theorem join_append_replicate {sep : Char} {pieces : List (List Char)} (hne : pieces ≠ [])
    (n : Nat) :
    join sep (pieces ++ List.replicate n []) = join sep pieces ++ List.replicate n sep := by
  induction n with
  | zero => simp
  | succ n ih =>
      rw [List.replicate_succ', ← List.append_assoc, join_append (by simp [hne]) (by simp), ih,
        List.replicate_succ', List.append_assoc]
      rfl

/-- The parts make the text again once it has two hyphens. -/
theorem join_components (s : String) :
    join '-' ((ofString s).components.map String.toList) = (withTwoHyphens s).toList := by
  rw [map_toList_components, List.rightpad, join_append_replicate (splitAtMost_ne_nil 3 s.toList),
    join_splitAtMost, length_splitAtMost, withTwoHyphens, String.toList_append,
    String.toList_ofList]
  congr 2
  omega

/-- The parts are the only ones that make this text: no part in front of the third hyphen has a
hyphen in it. -/
theorem splitAtMost_withTwoHyphens (s : String) :
    splitAtMost '-' 3 (withTwoHyphens s).toList = (ofString s).components.map String.toList := by
  rw [← join_components]
  apply splitAtMost_join
  · simp [components]
  · cases hlast : (ofString s).environment <;> simp [components, hlast]
  · exact fun _ => hyphen_not_mem_of_mem_take

theorem ofString_eq_iff (first second : String) :
    ofString first = ofString second ↔ withTwoHyphens first = withTwoHyphens second := by
  constructor
  · intro hsame
    rw [← String.toList_inj, ← join_components, ← join_components, hsame]
  · intro hsame
    apply eq_of_components_eq (arch_eq_ofSpelling first) (arch_eq_ofSpelling second)
    apply (List.map_inj_right fun _ _ => String.toList_inj.mp).mp
    rw [← splitAtMost_withTwoHyphens, ← splitAtMost_withTwoHyphens, hsame]

/-! ## The architecture -/

/-- Both ways to read the architecture of a triple give the same. -/
theorem arch_ofString (s : String) : (ofString s).arch = archOf s := by
  simp only [ofString, archOf, fst_cut]

theorem archOf_eq_of_first {s : String} {first : List Char} (hhyphen : '-' ∉ first)
    (hfirst : s.toList = first ∨ ∃ rest, s.toList = first ++ '-' :: rest) :
    archOf s = Arch.ofSpelling first := by
  rw [archOf, ← fst_cut]
  rcases hfirst with hs | ⟨rest, hs⟩
  · rw [hs, cut_of_not_mem hhyphen]
  · rw [hs, cut_append hhyphen]

/-- A triple keeps all of its text: its parts are those of the text, and two texts have the same
parts just when they are equal once both have two hyphens. Its architecture is what the text before
the first hyphen spells, so nothing behind this hyphen has a say in it. -/
theorem ofString_keeps_text (s : String) :
    PartsOf s (ofString s) ∧
    (∀ other, ofString other = ofString s ↔ withTwoHyphens other = withTwoHyphens s) ∧
    (ofString s).arch = archOf s ∧
    (∀ first, '-' ∉ first → (s.toList = first ∨ ∃ rest, s.toList = first ++ '-' :: rest) →
      archOf s = Arch.ofSpelling first) ∧
    (∀ other, (ofString other).archName = (ofString s).archName → archOf other = archOf s) := by
  refine ⟨partsOf_ofString s, fun other => ofString_eq_iff other s, arch_ofString s,
    fun _ => archOf_eq_of_first, ?_⟩
  intro other hname
  rw [← arch_ofString, ← arch_ofString, arch_eq_ofSpelling, arch_eq_ofSpelling, hname]

/-- A missing vendor and a missing system look like empty ones; a missing environment does not. -/
example : ofString "arm" = ofString "arm--" ∧ ofString "arm--" ≠ ofString "arm---" := by
  decide +kernel

end Triple

end TargetConfig
