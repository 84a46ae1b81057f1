import Mathlib.Data.List.Perm.Basic
import Mathlib.Data.List.ReduceOption
import TargetConfig.CommandLine
import TargetConfig.Proofs.Text.Limited

/-! # Options in any order

An option that stands in one argument with its value is understood whatever the value is, also if
the value is empty or looks like an option itself. Options with different names may come in any
order: under each name the same value is found.
-/

namespace TargetConfig.CommandLine

/-- An option in one argument: its name, and after an equals sign the value that belongs to it. -/
def Flag.argument (flag : Flag) (value : String) : String :=
  if flag.takesValue then "--" ++ flag.name ++ "=" ++ value else "--" ++ flag.name

/-- An option with a value that is not refused. -/
structure Flag.Accepts (flags : List Flag) (flag : Flag) (value : String) : Prop where
  known : flags.find? (·.name = flag.name) = some flag
  named : flag.name ≠ ""
  noEquals : '=' ∉ flag.name.toList
  noValue : flag.takesValue = false → value = ""
  value : flag.takesValue = true → flag.allowsEmpty = false → value ≠ ""

theorem toList_argument (flag : Flag) (value : String) :
    (flag.argument value).toList =
      '-' :: '-' :: (flag.name.toList ++ if flag.takesValue then '=' :: value.toList else []) := by
  cases htakes : flag.takesValue <;> simp [Flag.argument, htakes]

theorem splitOption_argument {flag : Flag} (hname : '=' ∉ flag.name.toList) (value : String) :
    splitOption (flag.argument value) =
      some (flag.name, if flag.takesValue then some value else none) := by
  unfold splitOption
  rw [toList_argument]
  cases flag.takesValue with
  | true => simp [Text.cut_append hname]
  | false => simp [Text.cut_of_not_mem hname]

theorem looksLikeOption_argument (flag : Flag) (value : String) :
    looksLikeOption (flag.argument value) = true := by
  have hne : flag.argument value ≠ "-" := by
    intro heq
    have hchars := toList_argument flag value
    rw [heq] at hchars
    simp at hchars
  simp [looksLikeOption, toList_argument, hne]

/-- Only the empty name would write the end of the options. -/
theorem argument_ne {flag : Flag} (hname : flag.name ≠ "") (value : String) :
    flag.argument value ≠ "--" := by
  intro heq
  have hchars := toList_argument flag value
  rw [heq] at hchars
  simp [hname] at hchars

theorem value?_of_not_mem {given : Given} {name : String}
    (hname : name ∉ given.options.map Prod.fst) : given.value? name = none := by
  apply List.lookup_eq_none_iff.mpr
  intro entry hentry
  exact bne_iff_ne.mpr (ne_of_mem_of_not_mem (List.mem_map_of_mem hentry) hname).symm

theorem addOption_of_accepts {flags : List Flag} {given : Given} {flag : Flag} {value : String}
    (haccepts : flag.Accepts flags value) (hnew : given.value? flag.name = none) :
    given.addOption flag value =
      some { given with options := given.options ++ [(flag.name, value)] } := by
  rw [Given.addOption, hnew]
  cases htakes : flag.takesValue with
  | false => rfl
  | true =>
      cases hempty : flag.allowsEmpty with
      | true => rfl
      | false => simp [haccepts.value htakes hempty]

/-- The next argument gives an option that was not given before. -/
theorem readArguments_argument {flags : List Flag} {given : Given} {flag : Flag} {value : String}
    (haccepts : flag.Accepts flags value) (hnew : given.value? flag.name = none)
    (rest : List String) :
    readArguments flags given (flag.argument value :: rest) =
      readArguments flags { given with options := given.options ++ [(flag.name, value)] } rest := by
  have hadd := addOption_of_accepts haccepts hnew
  rw [readArguments]
  · rw [if_pos (looksLikeOption_argument flag value), splitOption_argument haccepts.noEquals]
    cases htakes : flag.takesValue with
    | true => simp [haccepts.known, htakes, hadd]
    | false =>
        rw [haccepts.noValue htakes] at hadd ⊢
        cases rest with
        | nil => simp [haccepts.known, htakes, hadd, readArguments]
        | cons next rest => simp [haccepts.known, htakes, hadd]
  · exact argument_ne haccepts.named value

/-- Options with different names are all taken, in the order in which they are given. -/
theorem readArguments_arguments {flags : List Flag} {options : List (Flag × String)}
    (haccepts : ∀ option ∈ options, option.1.Accepts flags option.2) (given : Given)
    (hnodup : (given.options.map Prod.fst ++ options.map (·.1.name)).Nodup) :
    readArguments flags given (options.map fun option => option.1.argument option.2) =
      some { given with
        options := given.options ++ options.map fun option => (option.1.name, option.2) } := by
  induction options generalizing given with
  | nil => simp [readArguments]
  | cons option options ih =>
      have hnew : given.value? option.1.name = none := by
        apply value?_of_not_mem
        intro hmem
        exact (List.nodup_append.mp hnodup).2.2 _ hmem _ List.mem_cons_self rfl
      rw [List.map_cons, readArguments_argument (haccepts option List.mem_cons_self) hnew, ih]
      · simp
      · intro other hother
        exact haccepts other (List.mem_cons_of_mem option hother)
      · simpa using hnodup

/-- What a command is given by options with their values and by nothing else. -/
def Given.ofOptions (options : List (Flag × String)) : Given :=
  ⟨options.map fun option => (option.1.name, option.2), []⟩

theorem readOptions_arguments {flags : List Flag} {options : List (Flag × String)}
    (haccepts : ∀ option ∈ options, option.1.Accepts flags option.2)
    (hnodup : (options.map (·.1.name)).Nodup) :
    readOptions flags (options.map fun option => option.1.argument option.2) =
      some (.ofOptions options) := by
  rw [readOptions, readArguments_arguments haccepts ⟨[], []⟩ hnodup]
  rfl

/-- Where each name stands once, the order does not matter for what is found under a name. -/
theorem lookup_perm {α : Type} {first second : List (String × α)} (hperm : first.Perm second)
    (name : String) (hnodup : (first.map Prod.fst).Nodup) :
    first.lookup name = second.lookup name := by
  induction hperm with
  | nil => rfl
  | cons entry _ ih =>
      rw [List.map_cons, List.nodup_cons] at hnodup
      rw [List.lookup_cons, List.lookup_cons, ih hnodup.2]
  | swap other entry _ =>
      -- a name that is looked up is that of one of the two at most
      have hne : entry.1 ≠ other.1 := by
        intro heq
        simp [heq] at hnodup
      rw [List.lookup_cons, List.lookup_cons, List.lookup_cons, List.lookup_cons]
      by_cases hother : name = other.1
      · have hentry : name ≠ entry.1 := fun heq => hne (heq.symm.trans hother)
        rw [beq_false_of_ne hentry]
      · rw [beq_false_of_ne hother]
  | trans hfirst _ ih₁ ih₂ =>
      rw [ih₁ hnodup, ih₂ ((hfirst.map Prod.fst).nodup_iff.mp hnodup)]

theorem value?_ofOptions_cons (flag : Flag) (value : String) (options : List (Flag × String))
    (name : String) :
    (Given.ofOptions ((flag, value) :: options)).value? name =
      if name = flag.name then some value else (Given.ofOptions options).value? name := by
  change ((flag.name, value) :: options.map _).lookup name = _
  rw [List.lookup_cons]
  split
  next heq => rw [if_pos (beq_iff_eq.mp heq)]
  next hne => rw [if_neg (beq_eq_false_iff_ne.mp hne)]; rfl

theorem value?_ofOptions_perm {first second : List (Flag × String)} (hperm : first.Perm second)
    (hnodup : (first.map (·.1.name)).Nodup) (name : String) :
    (Given.ofOptions first).value? name = (Given.ofOptions second).value? name := by
  apply lookup_perm (hperm.map _) name
  rw [List.map_map]
  exact hnodup

/-- Another order of what is written for items writes another order of the items. -/
theorem exists_perm_of_perm_map {α β : Type} {write : α → β} {items : List α} {texts : List β}
    (hperm : texts.Perm (items.map write)) :
    ∃ others : List α, others.Perm items ∧ texts = others.map write := by
  have hwritten : List.Forall₂ (fun text item => text = write item) (items.map write) items := by
    rw [List.forall₂_map_left_iff, List.forall₂_same]
    intro item _
    rfl
  obtain ⟨others, htexts, hothers⟩ := List.perm_comp_forall₂ hperm hwritten
  exact ⟨others, hothers, List.forall₂_eq_eq_eq ▸ List.forall₂_map_right_iff.mpr htexts⟩

/-! ## Options that may be left out -/

/-- The options that have a value. -/
def present (options : List (Flag × Option String)) : List (Flag × String) :=
  options.filterMap fun option => option.2.map (option.1, ·)

theorem present_cons_none (flag : Flag) (options : List (Flag × Option String)) :
    present ((flag, none) :: options) = present options := rfl

theorem present_cons_some (flag : Flag) (value : String) (options : List (Flag × Option String)) :
    present ((flag, some value) :: options) = (flag, value) :: present options := rfl

theorem map_argument_present (options : List (Flag × Option String)) :
    ((present options).map fun option => option.1.argument option.2) =
      (options.map fun option => option.2.map option.1.argument).reduceOption := by
  induction options with
  | nil => rfl
  | cons option options ih =>
      obtain ⟨flag, found⟩ := option
      cases found with
      | none => rw [present_cons_none, ih]; rfl
      | some value => rw [present_cons_some, List.map_cons, ih]; rfl

theorem sublist_present (options : List (Flag × Option String)) :
    ((present options).map (·.1.name)).Sublist (options.map (·.1.name)) := by
  induction options with
  | nil => exact List.Sublist.refl _
  | cons option options ih =>
      obtain ⟨flag, found⟩ := option
      cases found with
      | none => exact ih.cons flag.name
      | some value => exact ih.cons_cons flag.name

/-- What is found under the name of an option is its value, if it has one. -/
theorem value?_present {options : List (Flag × Option String)}
    (hnodup : (options.map (·.1.name)).Nodup) {flag : Flag} {found : Option String}
    (hmem : (flag, found) ∈ options) :
    (Given.ofOptions (present options)).value? flag.name = found := by
  induction options with
  | nil => cases hmem
  | cons option options ih =>
      obtain ⟨other, given⟩ := option
      rw [List.map_cons, List.nodup_cons] at hnodup
      rcases List.mem_cons.mp hmem with heq | hrest
      · obtain ⟨rfl, rfl⟩ := Prod.mk.inj heq
        cases found with
        | some value => rw [present_cons_some, value?_ofOptions_cons, if_pos rfl]
        | none =>
            apply value?_of_not_mem
            rw [present_cons_none, Given.ofOptions, List.map_map]
            exact fun hpresent => hnodup.1 ((sublist_present options).subset hpresent)
      · have hne : flag.name ≠ other.name := by
          intro heq
          rw [← heq] at hnodup
          exact hnodup.1 (List.mem_map_of_mem hrest)
        cases given with
        | none => exact ih hnodup.2 hrest
        | some value =>
            rw [present_cons_some, value?_ofOptions_cons, if_neg hne]
            exact ih hnodup.2 hrest

end TargetConfig.CommandLine
