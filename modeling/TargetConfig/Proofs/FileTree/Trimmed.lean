import Mathlib.Data.List.Induction
import TargetConfig.Proofs.FileTree.Places
import TargetConfig.Proofs.Text.Pieces

/-! # The end of a path

Slashes and dots at the end of a path lead nowhere else. Going up from a path inside, one comes by
the path without them.
-/

namespace TargetConfig

open Text

namespace Path

/-- The path up to its last level. -/
def trimmed (path : Path) : Path :=
  ((levels [] path.segments).getLast?.map ofSegments).getD path.origin

/-! ## Segments -/

theorem map_toList_segments (path : Path) :
    path.segments.map String.toList = split '/' path.text.toList := by
  simp [segments, Function.comp_def]

theorem slash_not_mem_of_mem_segments {path : Path} {segment : String}
    (hsegment : segment ∈ path.segments) : '/' ∉ segment.toList := by
  obtain ⟨piece, hpiece, rfl⟩ := List.mem_map.mp hsegment
  rw [String.toList_ofList]
  exact not_mem_of_mem_split hpiece

theorem toList_text (path : Path) :
    path.text.toList = join '/' (path.segments.map String.toList) := by
  rw [map_toList_segments, join_split]

theorem toList_text_ofSegments (segments : List String) :
    (ofSegments segments).text.toList = join '/' (segments.map String.toList) :=
  String.toList_ofList

theorem segments_ofSegments {segments : List String} (hne : segments ≠ [])
    (hslash : ∀ segment ∈ segments, '/' ∉ segment.toList) :
    (ofSegments segments).segments = segments := by
  have hpieces : ∀ piece ∈ segments.map String.toList, '/' ∉ piece := by
    intro piece hpiece
    obtain ⟨segment, hsegment, rfl⟩ := List.mem_map.mp hpiece
    exact hslash segment hsegment
  rw [Path.segments, toList_text_ofSegments, split_join (by simpa using hne) hpieces]
  simp [Function.comp_def]

/-! ## What is left out -/

theorem levels_append (before first second : List String) :
    levels before (first ++ second) = levels before first ++ levels (before ++ first) second := by
  induction first generalizing before with
  | nil => simp [levels]
  | cons segment first ih =>
      have hbefore : before ++ [segment] ++ first = before ++ segment :: first := by simp
      simp only [List.cons_append, levels, ih, hbefore]
      split <;> rfl

theorem levels_concat (segments : List String) (segment : String) :
    levels [] (segments ++ [segment]) =
      levels [] segments ++ if isLevel segments segment then [segments ++ [segment]] else [] := by
  rw [levels_append, List.nil_append]
  rfl

/-- Segments from the last one on, without those in front that are no level: the end of a path that
leads nowhere else. -/
def dropPadding : List String → List String
  | [] => []
  | segment :: before => if isLevel before segment then segment :: before else dropPadding before

theorem isLevel_reverse (before : List String) (segment : String) :
    isLevel before.reverse segment = isLevel before segment := by
  simp [isLevel]

theorem eq_empty_or_dot_of_isLevel {before : List String} {segment : String}
    (hlevel : isLevel before segment = false) : segment = "" ∨ segment = "." := by
  by_cases hempty : segment = ""
  · exact Or.inl hempty
  · right
    simp_all [isLevel]

/-- Segments end in a level, with nothing but empty segments and dots behind it. -/
structure EndsInLevel (segments init : List String) (level : String) (rest : List String) :
    Prop where
  eq_append : segments = init ++ [level] ++ rest
  eq_empty_or_dot : ∀ segment ∈ rest, segment = "" ∨ segment = "."
  isLevel : isLevel init level = true
  levels : levels [] segments = levels [] init ++ [init ++ [level]]
  dropPadding : dropPadding segments.reverse = level :: init.reverse

theorem EndsInLevel.ne_empty {segments init rest : List String} {level : String}
    (hends : EndsInLevel segments init level rest) : level ≠ "" := by
  rintro rfl
  have hlevel := hends.isLevel
  simp [Path.isLevel] at hlevel

/-- There is a last level, or no level at all. -/
theorem levels_eq_nil_or_endsInLevel (segments : List String) :
    ((∀ segment ∈ segments, segment = "" ∨ segment = ".") ∧ levels [] segments = [] ∧
        dropPadding segments.reverse = []) ∨
      ∃ init level rest, EndsInLevel segments init level rest := by
  induction segments using List.reverseRecOn with
  | nil => exact Or.inl ⟨by simp, rfl, rfl⟩
  | append_singleton segments segment ih =>
      have hlevels := levels_concat segments segment
      have hdrop : dropPadding (segments ++ [segment]).reverse =
          if isLevel segments segment then segment :: segments.reverse
          else dropPadding segments.reverse := by
        rw [List.reverse_append, List.reverse_singleton, List.singleton_append, dropPadding,
          isLevel_reverse]
      cases hhere : isLevel segments segment with
      | true =>
          rw [hhere, if_pos rfl] at hlevels hdrop
          exact Or.inr ⟨segments, segment, [], by simp, by simp, hhere, hlevels, hdrop⟩
      | false =>
          simp only [hhere, Bool.false_eq_true, if_false, List.append_nil] at hlevels hdrop
          have hpadding := eq_empty_or_dot_of_isLevel hhere
          rcases ih with ⟨hall, hnone, hempty⟩ | ⟨init, level, rest, hends⟩
          · refine Or.inl ⟨?_, hlevels.trans hnone, hdrop.trans hempty⟩
            simpa [or_imp, forall_and] using ⟨hall, hpadding⟩
          · refine Or.inr ⟨init, level, rest ++ [segment], ?_, ?_, hends.isLevel,
              hlevels.trans hends.levels, hdrop.trans hends.dropPadding⟩
            · rw [hends.eq_append, List.append_assoc]
            · simpa [or_imp, forall_and] using ⟨hends.eq_empty_or_dot, hpadding⟩

/-- A path is a shorter one with nothing but slashes and dots behind it. -/
structure Padded (short path : Path) : Prop where
  text : ∃ tail, path.text = short.text ++ tail
  steps : ∃ dots, path.steps = short.steps ++ dots ∧ ∀ step ∈ dots, step = "."
  isAbsolute : short.isAbsolute = path.isAbsolute

theorem eq_dot_of_mem_filter {rest : List String}
    (hrest : ∀ segment ∈ rest, segment = "" ∨ segment = ".") {step : String}
    (hstep : step ∈ rest.filter (!·.isEmpty)) : step = "." := by
  obtain ⟨hmem, hnonempty⟩ := List.mem_filter.mp hstep
  exact (hrest step hmem).resolve_left (by simpa using hnonempty)

/-- A path without a level goes nowhere from where it starts. -/
theorem padded_origin {path : Path}
    (hrest : ∀ segment ∈ path.segments, segment = "" ∨ segment = ".") :
    Padded path.origin path := by
  cases habsolute : path.isAbsolute with
  | true =>
      have horigin : path.origin = ⟨"/"⟩ := by simp [origin, habsolute]
      have hhead : path.text.toList.head? = some '/' := by simpa [isAbsolute] using habsolute
      obtain ⟨tail, htail⟩ := List.head?_eq_some_iff.mp hhead
      refine ⟨⟨String.ofList tail, ?_⟩, ⟨path.steps, by rw [horigin]; rfl, ?_⟩, ?_⟩
      · rw [horigin, ← String.toList_inj, htail]
        simp
      · exact fun _ => eq_dot_of_mem_filter hrest
      · rw [horigin, habsolute]
        rfl
  | false =>
      have horigin : path.origin = ⟨""⟩ := by simp [origin, habsolute]
      refine ⟨⟨path.text, ?_⟩, ⟨path.steps, by rw [horigin]; rfl, ?_⟩, ?_⟩
      · rw [horigin, String.empty_append]
      · exact fun _ => eq_dot_of_mem_filter hrest
      · rw [horigin, habsolute]
        rfl

theorem join_ne_nil {init : List String} {level : String} (hlevel : level ≠ "") :
    join '/' ((init ++ [level]).map String.toList) ≠ [] := by
  have hlast : level.toList ≠ [] := by simpa using hlevel
  by_cases hinit : init = []
  · simpa [hinit, join] using hlast
  · rw [List.map_append, join_append (by simpa using hinit) (by simp)]
    simp

/-- A path is read from its first segments on as the path that they make. -/
theorem segments_ofSegments_of_append {path : Path} {kept rest : List String}
    (hsegments : path.segments = kept ++ rest) (hne : kept ≠ []) :
    (ofSegments kept).segments = kept := by
  apply segments_ofSegments hne
  intro segment hsegment
  have hmem : segment ∈ path.segments := by
    rw [hsegments]
    exact List.mem_append_left rest hsegment
  exact slash_not_mem_of_mem_segments hmem

theorem toList_text_of_append {path : Path} {kept rest : List String}
    (hsegments : path.segments = kept ++ rest) (hne : kept ≠ []) :
    ∃ tail, path.text.toList = (ofSegments kept).text.toList ++ tail := by
  rw [toList_text, hsegments, toList_text_ofSegments]
  by_cases hnothing : rest = []
  · exact ⟨[], by simp [hnothing]⟩
  · rw [List.map_append]
    exact ⟨_, join_append (by simpa using hne) (by simpa using hnothing)⟩

theorem isAbsolute_ofSegments {path : Path} {init rest : List String} {level : String}
    (hsegments : path.segments = init ++ [level] ++ rest) (hlevel : level ≠ "") :
    (ofSegments (init ++ [level])).isAbsolute = path.isAbsolute := by
  obtain ⟨tail, htail⟩ := toList_text_of_append hsegments (by simp)
  have hnonempty : (ofSegments (init ++ [level])).text.toList ≠ [] := by
    rw [toList_text_ofSegments]
    exact join_ne_nil hlevel
  rw [isAbsolute, isAbsolute, htail, List.head?_append, Option.or_of_isSome]
  simpa using hnonempty

theorem padded_ofSegments {path : Path} {init rest : List String} {level : String}
    (hends : EndsInLevel path.segments init level rest) :
    Padded (ofSegments (init ++ [level])) path := by
  have hsegments := hends.eq_append
  obtain ⟨tail, htail⟩ := toList_text_of_append hsegments (by simp)
  refine ⟨⟨String.ofList tail, ?_⟩, ⟨rest.filter (!·.isEmpty), ?_, ?_⟩, ?_⟩
  · rw [← String.toList_inj, htail, String.toList_append, String.toList_ofList]
  · rw [steps, steps, segments_ofSegments_of_append hsegments (by simp), hsegments,
      List.filter_append]
  · exact fun _ => eq_dot_of_mem_filter hends.eq_empty_or_dot
  · exact isAbsolute_ofSegments hsegments hends.ne_empty

theorem padded_trimmed (path : Path) : Padded path.trimmed path := by
  rcases levels_eq_nil_or_endsInLevel path.segments with
    ⟨hall, hnone, _⟩ | ⟨init, level, rest, hends⟩
  · have htrimmed : path.trimmed = path.origin := by simp [trimmed, hnone]
    rw [htrimmed]
    exact padded_origin hall
  · have htrimmed : path.trimmed = ofSegments (init ++ [level]) := by simp [trimmed, hends.levels]
    rw [htrimmed]
    exact padded_ofSegments hends

/-! ## Names in a directory -/

theorem text_child (path : Path) (name : String) :
    ∃ sep, (path.child name).text = path.text ++ sep ++ name ∧ (sep = "" ∨ sep = "/") := by
  unfold child
  split
  next => exact ⟨"", by rw [String.append_empty], Or.inl rfl⟩
  next => exact ⟨"/", rfl, Or.inr rfl⟩

theorem segments_mk_append (first second : String) :
    segments ⟨first ++ "/" ++ second⟩ = segments ⟨first⟩ ++ segments ⟨second⟩ := by
  have hchars : (first ++ "/" ++ second).toList = first.toList ++ '/' :: second.toList := by simp
  rw [segments, hchars, split_append_sep, List.map_append]
  rfl

theorem segments_mk_of_isName {name : String} (hname : IsName name) : segments ⟨name⟩ = [name] := by
  rw [segments, split_of_not_mem hname.2.2.2.1]
  simp

/-- A name comes in the place of an empty last segment, or behind the last segment. -/
theorem segments_child (path : Path) {name : String} (hname : IsName name) :
    ∃ init, (path.child name).segments = init ++ [name] ∧
      (path.segments = init ∨ path.segments = init ++ [""]) := by
  obtain ⟨text⟩ := path
  unfold child
  split
  next hbare =>
    rcases Bool.or_eq_true_iff.mp hbare with hempty | hslash
    · obtain rfl := String.isEmpty_iff.mp hempty
      rw [String.empty_append]
      exact ⟨[], segments_mk_of_isName hname, Or.inr rfl⟩
    · obtain ⟨first, hfirst⟩ := List.getLast?_eq_some_iff.mp (by simpa [endsInSlash] using hslash)
      have htext : text = String.ofList first ++ "/" ++ "" := by
        rw [← String.toList_inj, hfirst]
        simp
      have hchild : text ++ name = String.ofList first ++ "/" ++ name := by
        rw [htext, String.append_empty]
      refine ⟨segments ⟨String.ofList first⟩, ?_, Or.inr ?_⟩
      · rw [hchild, segments_mk_append, segments_mk_of_isName hname]
      · rw [htext, segments_mk_append]
        rfl
  next =>
    refine ⟨segments ⟨text⟩, ?_, Or.inl rfl⟩
    rw [segments_mk_append, segments_mk_of_isName hname]

theorem steps_child (path : Path) {name : String} (hname : IsName name) :
    (path.child name).steps = path.steps ++ [name] := by
  obtain ⟨init, hchild, hpath | hpath⟩ := path.segments_child hname
  · simp [steps, hchild, hpath, hname.1]
  · simp [steps, hchild, hpath, hname.1]

theorem endsInSlash_child (path : Path) {name : String} (hname : IsName name) :
    (path.child name).endsInSlash = false := by
  obtain ⟨sep, htext, _⟩ := text_child path name
  have hnonempty : name.toList ≠ [] := by simpa using hname.1
  rw [endsInSlash, htext, String.toList_append, List.getLast?_append, Option.or_of_isSome]
  · apply decide_eq_false
    intro hlast
    exact hname.2.2.2.1 (List.mem_of_getLast? hlast)
  · simpa using hnonempty

theorem isAbsolute_child (path : Path) {name : String} (hname : IsName name) :
    (path.child name).isAbsolute = path.isAbsolute := by
  obtain ⟨text⟩ := path
  by_cases hempty : text = ""
  · subst hempty
    have hchild : child ⟨""⟩ name = ⟨name⟩ := by simp [child]
    rw [hchild, isAbsolute]
    apply decide_eq_false
    intro hhead
    exact hname.2.2.2.1 (List.mem_of_head? hhead)
  · obtain ⟨sep, htext, _⟩ := text_child ⟨text⟩ name
    rw [isAbsolute, isAbsolute, htext, String.append_assoc, String.toList_append,
      List.head?_append, Option.or_of_isSome]
    simpa using hempty

/-- A name is one more level. -/
theorem levels_child (path : Path) {name : String} (hname : IsName name) :
    levels [] (path.child name).segments =
      levels [] path.segments ++ [(path.child name).segments] := by
  obtain ⟨init, hchild, hpath⟩ := path.segments_child hname
  have hinit : levels [] path.segments = levels [] init := by
    rcases hpath with hpath | hpath
    · rw [hpath]
    · rw [hpath, levels_append]
      simp [levels, isLevel]
  rw [hinit, hchild, levels_append]
  simp [levels, isLevel, hname.1, hname.2.1]

theorem ofSegments_segments (path : Path) : ofSegments path.segments = path := by
  have htext : (ofSegments path.segments).text = path.text := by
    rw [← String.toList_inj, toList_text_ofSegments, ← toList_text]
  exact congrArg Path.mk htext

theorem trimmed_child (path : Path) {name : String} (hname : IsName name) :
    (path.child name).trimmed = path.child name := by
  simp [trimmed, levels_child path hname, ofSegments_segments]

/-- The way up from a name in a directory goes on to the directory, without the end of its path, and
then to the directories around it. -/
theorem upward_child (path : Path) {name : String} (hname : IsName name) :
    (path.child name).upward = path.child name :: path.trimmed :: path.parents := by
  have horigin : (path.child name).origin = path.origin := by
    rw [origin, origin, isAbsolute_child path hname]
  have hdrop : ∀ (outer : List Path) (last : Path),
      (path.origin :: (outer ++ [last])).dropLast = path.origin :: outer := by
    intro outer last
    rw [← List.cons_append, List.dropLast_concat]
  rw [upward, parents, horigin, levels_child path hname, List.map_append, List.map_singleton, hdrop,
    parents, trimmed]
  rcases List.eq_nil_or_concat (levels [] path.segments) with hnone | ⟨outer, last, hlast⟩
  · simp [hnone]
  · rw [hlast, List.concat_eq_append, List.map_append, List.map_singleton, hdrop]
    simp

/-- The way up from names further inside comes by one directory for each name, then by the path
without its end, and goes on from there. -/
theorem drop_upward_foldl_child (path : Path) {names : List String}
    (hnames : ∀ name ∈ names, IsName name) :
    (names.foldl child path).upward.drop names.length =
      (if names.isEmpty then path else path.trimmed) :: path.parents := by
  induction names generalizing path with
  | nil => rfl
  | cons name names ih =>
      obtain ⟨hname, hrest⟩ := List.forall_mem_cons.mp hnames
      have hdrop : (names.foldl child (path.child name)).upward.drop names.length =
          (path.child name).upward := by
        rw [ih (path.child name) hrest, trimmed_child path hname, ite_self]
        rfl
      rw [List.foldl_cons, List.length_cons, ← List.drop_drop, hdrop, upward_child path hname]
      rfl

end Path

end TargetConfig
