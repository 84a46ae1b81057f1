import TargetConfig.Proofs.Profile.RoundTrip
import TargetConfig.Proofs.Request.Attempts
import TargetConfig.Proofs.Toml.Proper

/-! # What the values of a document say

A reading takes values as something of a type. It comes with what it means that a value says
something of that type, and with what is wrong with a value that says nothing of it. Texts and truth
values are written in one way only, lists of texts also as an array of no tables, and a choice also
as a table with the label as its only key.
-/

namespace TargetConfig

open Toml

/-- A reader of values that gives what a value says, and the fault of one that says nothing. This is
asked of proper values only, since of a key that occurs twice the last value would count. -/
structure Reading (α : Type) where
  read : Value → Except Mismatch α
  /-- Whether a value says this. -/
  Says : Value → α → Prop
  /-- Whether this is wrong with a value. -/
  Faulty : Value → Mismatch → Prop
  read_eq_ok_iff : ∀ {v : Value}, v.Proper → ∀ {a : α}, read v = .ok a ↔ Says v a
  read_eq_error_iff : ∀ {v : Value}, v.Proper →
    ∀ {mismatch : Mismatch}, read v = .error mismatch ↔ Faulty v mismatch
  ne_missingKey : ∀ {v : Value} {mismatch : Mismatch}, Faulty v mismatch →
    ∀ key, mismatch ≠ .missingKey key

namespace Reading

variable {α : Type} {v : Value}

/-- A value does not say two things. -/
theorem Says.unique {reading : Reading α} (hv : v.Proper) {a b : α} (ha : reading.Says v a)
    (hb : reading.Says v b) : a = b := by
  have hread := ((reading.read_eq_ok_iff hv).mpr ha).symm.trans ((reading.read_eq_ok_iff hv).mpr hb)
  exact Except.ok.inj hread

/-- Nothing is wrong with a value that says something. -/
theorem Says.not_faulty {reading : Reading α} (hv : v.Proper) {a : α} (ha : reading.Says v a)
    (mismatch : Mismatch) : ¬ reading.Faulty v mismatch := by
  intro hfaulty
  have hread := (reading.read_eq_ok_iff hv).mpr ha
  rw [(reading.read_eq_error_iff hv).mpr hfaulty] at hread
  contradiction

/-! ## Texts and truth values -/

section OfKind

variable {expected : String} {write : α → Value} {view : Value → Option α}

theorem expect_eq_ok_iff {a : α} : Format.expect expected view v = .ok a ↔ view v = some a := by
  unfold Format.expect
  cases view v with
  | none => simp
  | some b => simp

theorem expect_eq_error_iff {mismatch : Mismatch} :
    Format.expect expected view v = .error mismatch ↔
      view v = none ∧ mismatch = .wrongType (found v) expected := by
  unfold Format.expect
  cases view v with
  | none => simp [eq_comm, Format.found]
  | some b => simp

theorem expect_kind_eq_ok_iff (hview : ∀ v a, view v = some a ↔ v = write a) {a : α} :
    Format.expect expected view v = .ok a ↔ v = write a := by
  rw [expect_eq_ok_iff, hview]

theorem expect_kind_eq_error_iff (hview : ∀ v a, view v = some a ↔ v = write a)
    {mismatch : Mismatch} :
    Format.expect expected view v = .error mismatch ↔
      (∀ a, v ≠ write a) ∧ mismatch = .wrongType (found v) expected := by
  rw [expect_eq_error_iff, Option.eq_none_iff_forall_ne_some]
  simp only [ne_eq, hview]

/-- Values of one kind only. -/
def ofKind (expected : String) (write : α → Value) (view : Value → Option α)
    (hview : ∀ v a, view v = some a ↔ v = write a) : Reading α where
  read := Format.expect expected view
  Says v a := v = write a
  Faulty v mismatch := (∀ a, v ≠ write a) ∧ mismatch = .wrongType (found v) expected
  read_eq_ok_iff _ := expect_kind_eq_ok_iff hview
  read_eq_error_iff _ := expect_kind_eq_error_iff hview
  ne_missingKey := by
    rintro v mismatch ⟨_, rfl⟩ key
    simp

end OfKind

theorem text?_eq_some_iff (v : Value) (s : String) :
    Format.text? v = some s ↔ v = .string s := by
  cases v <;> simp [Format.text?]

theorem truth?_eq_some_iff (v : Value) (b : Bool) :
    Format.truth? v = some b ↔ v = .boolean b := by
  cases v <;> simp [Format.truth?]

def text : Reading String := ofKind "a string" .string Format.text? text?_eq_some_iff

def truth : Reading Bool := ofKind "a boolean" .boolean Format.truth? truth?_eq_some_iff

@[simp] theorem text_says_iff {s : String} : text.Says v s ↔ v = .string s := Iff.rfl

@[simp] theorem truth_says_iff {b : Bool} : truth.Says v b ↔ v = .boolean b := Iff.rfl

/-! ## Lists of texts -/

theorem mapM_text_eq_ok_iff {items : List Value} {texts : List String} :
    items.mapM Format.text = (.ok texts : Except Mismatch _) ↔ items = texts.map .string := by
  constructor
  · intro hread
    induction items generalizing texts with
    | nil =>
        obtain rfl := Except.ok.inj hread
        rfl
    | cons item items ih =>
        rw [List.mapM_cons] at hread
        obtain ⟨first, hfirst, hread⟩ := Attempt.bind_eq_ok_iff.mp hread
        obtain ⟨rest, hrest, hread⟩ := Attempt.bind_eq_ok_iff.mp hread
        obtain rfl := Except.ok.inj hread
        rw [List.map_cons, (expect_kind_eq_ok_iff text?_eq_some_iff).mp hfirst, ih hrest]
  · rintro rfl
    exact texts_array texts

/-- The first item that is no text is reported. -/
theorem mapM_text_eq_error_iff {items : List Value} {mismatch : Mismatch} :
    items.mapM Format.text = (.error mismatch : Except Mismatch (List String)) ↔
      ∃ before item after, items = List.map .string before ++ item :: after ∧
        text.Faulty item mismatch := by
  constructor
  · intro hread
    induction items with
    | nil => contradiction
    | cons item items ih =>
        rw [List.mapM_cons] at hread
        rcases Attempt.bind_eq_error_iff.mp hread with hfirst | ⟨first, hfirst, hread⟩
        · exact ⟨[], item, items, rfl, (expect_kind_eq_error_iff text?_eq_some_iff).mp hfirst⟩
        · rcases Attempt.bind_eq_error_iff.mp hread with hrest | ⟨_, _, hpure⟩
          · obtain ⟨before, faulty, after, rfl, hfaulty⟩ := ih hrest
            obtain rfl := (expect_kind_eq_ok_iff text?_eq_some_iff).mp hfirst
            exact ⟨first :: before, faulty, after, rfl, hfaulty⟩
          · contradiction
  · rintro ⟨before, item, after, rfl, hfaulty⟩
    have hbefore : (List.map Value.string before).mapM Format.text =
        (.ok before : Except Mismatch _) := texts_array before
    have hitem : Format.text item = .error mismatch :=
      (expect_kind_eq_error_iff text?_eq_some_iff).mpr hfaulty
    rw [List.mapM_append, hbefore, List.mapM_cons, hitem]
    rfl

def texts : Reading (List String) where
  read := Format.texts
  Says v texts := items? v = some (texts.map .string)
  Faulty v mismatch :=
    (items? v = none ∧ mismatch = .wrongType (found v) "a sequence") ∨
      ∃ before item after, items? v = some (List.map .string before ++ item :: after) ∧
        text.Faulty item mismatch
  read_eq_ok_iff := by
    intro v _ texts
    refine Attempt.bind_eq_ok_iff.trans ?_
    simp only [expect_eq_ok_iff, mapM_text_eq_ok_iff]
    constructor
    · rintro ⟨items, hitems, rfl⟩
      exact hitems
    · intro hitems
      exact ⟨_, hitems, rfl⟩
  read_eq_error_iff := by
    intro v _ mismatch
    refine Attempt.bind_eq_error_iff.trans ?_
    simp only [expect_eq_ok_iff, expect_eq_error_iff, mapM_text_eq_error_iff]
    apply or_congr_right
    constructor
    · rintro ⟨items, hitems, before, item, after, rfl, hfaulty⟩
      exact ⟨before, item, after, hitems, hfaulty⟩
    · rintro ⟨before, item, after, hitems, hfaulty⟩
      exact ⟨_, hitems, before, item, after, rfl, hfaulty⟩
  ne_missingKey := by
    rintro v mismatch (⟨_, rfl⟩ | ⟨_, item, _, _, hfaulty⟩) key
    · simp
    · exact text.ne_missingKey hfaulty key

/-! ## Choices -/

/-- Values that say nothing. -/
inductive SaysNothing : Value → Prop
  | table (origin : Origin) : SaysNothing (.table origin [])
  | array : SaysNothing (.array [])
  | tables : SaysNothing (.tables [])

theorem checkNothing_eq_ok_iff {v : Value} : checkNothing v = .ok () ↔ SaysNothing v := by
  constructor
  · intro hcheck
    unfold checkNothing at hcheck
    split at hcheck
    next => exact .table _
    next => contradiction
    next => exact .array
    next => contradiction
    next => exact .tables
    all_goals contradiction
  · intro hnothing
    cases hnothing <;> rfl

theorem checkNothing_ne_missingKey {v : Value} (key : String) :
    checkNothing v ≠ .error (.missingKey key) := by
  unfold checkNothing
  split <;> simp

/-- What is wrong with a value that is none of the choices. -/
inductive ChoiceFault (α : Type) [Enumerated α] : Value → Mismatch → Prop
  | unknownLabel {label : String} (hlabel : ∀ a : α, Enumerated.label a ≠ label) :
      ChoiceFault α (.string label) (.unknownLabel label (Enumerated.labels α))
  | unknownKey {origin : Origin} {label : String} {v : Value}
      (hlabel : ∀ a : α, Enumerated.label a ≠ label) :
      ChoiceFault α (.table origin [(label, v)]) (.unknownLabel label (Enumerated.labels α))
  | something {origin : Origin} {v : Value} (a : α) {mismatch : Mismatch}
      (hsomething : checkNothing v = .error mismatch) :
      ChoiceFault α (.table origin [(Enumerated.label a, v)]) mismatch
  | noKey {origin : Origin} : ChoiceFault α (.table origin []) (.notOneElement false)
  | severalKeys {origin : Origin} {first second : String × Value} {rest : Table} :
      ChoiceFault α (.table origin (first :: second :: rest)) (.notOneElement true)
  | neither {v : Value} (hstring : ∀ s, v ≠ .string s)
      (htable : ∀ origin entries, v ≠ .table origin entries) : ChoiceFault α v .notStringOrTable

section Choice

variable [Enumerated α] [LawfulEnumerated α]

theorem ofLabel_eq_error_iff {label : String} {mismatch : Mismatch} :
    Format.ofLabel label = (.error mismatch : Except Mismatch α) ↔
      (∀ a : α, Enumerated.label a ≠ label) ∧
        mismatch = .unknownLabel label (Enumerated.labels α) := by
  have hnone : (Enumerated.ofLabel? label : Option α) = none ↔
      ∀ a : α, Enumerated.label a ≠ label := by
    constructor
    · rintro hnone a rfl
      rw [LawfulEnumerated.ofLabel?_label a] at hnone
      contradiction
    · intro hlabel
      apply List.find?_eq_none.mpr
      intro a _
      simpa using hlabel a
  rw [← hnone, Format.ofLabel]
  cases (Enumerated.ofLabel? label : Option α) with
  | none => simp [eq_comm]
  | some a => simp

theorem ofLabel_eq_ok_iff {label : String} {a : α} :
    Format.ofLabel label = (.ok a : Except Mismatch α) ↔ label = Enumerated.label a := by
  constructor
  · intro hread
    unfold Format.ofLabel at hread
    split at hread
    next b hfound =>
      obtain rfl := Except.ok.inj hread
      simpa [eq_comm] using List.find?_some hfound
    next => contradiction
  · rintro rfl
    exact choice_label a

theorem choice_eq_ok_iff {v : Value} {a : α} :
    Toml.choice v = .ok a ↔ v = .string (Enumerated.label a) ∨
      ∃ origin nothing, v = .table origin [(Enumerated.label a, nothing)] ∧
        SaysNothing nothing := by
  constructor
  · intro hread
    unfold Toml.choice at hread
    split at hread
    next label => exact Or.inl (congrArg Value.string (ofLabel_eq_ok_iff.mp hread))
    next => contradiction
    next origin label nothing =>
      obtain ⟨b, hlabel, hread⟩ := Attempt.bind_eq_ok_iff.mp hread
      obtain ⟨_, hnothing, hread⟩ := Attempt.bind_eq_ok_iff.mp hread
      obtain rfl := Except.ok.inj hread
      obtain rfl := ofLabel_eq_ok_iff.mp hlabel
      exact Or.inr ⟨origin, nothing, rfl, checkNothing_eq_ok_iff.mp hnothing⟩
    next => contradiction
    next => contradiction
  · rintro (rfl | ⟨origin, nothing, rfl, hnothing⟩)
    · exact choice_label a
    · apply Attempt.bind_eq_ok_iff.mpr
      refine ⟨a, choice_label a, ?_⟩
      apply Attempt.bind_eq_ok_iff.mpr
      exact ⟨(), checkNothing_eq_ok_iff.mpr hnothing, rfl⟩

theorem choice_eq_error_iff {v : Value} {mismatch : Mismatch} :
    Toml.choice v = (.error mismatch : Except Mismatch α) ↔ ChoiceFault α v mismatch := by
  constructor
  · intro hread
    unfold Toml.choice at hread
    split at hread
    next label =>
      obtain ⟨hlabel, rfl⟩ := ofLabel_eq_error_iff.mp hread
      exact .unknownLabel hlabel
    next =>
      obtain rfl := Except.error.inj hread
      exact .noKey
    next origin label nothing =>
      rcases Attempt.bind_eq_error_iff.mp hread with hunknown | ⟨a, hknown, hafter⟩
      · obtain ⟨hlabel, rfl⟩ := ofLabel_eq_error_iff.mp hunknown
        exact .unknownKey hlabel
      · obtain rfl := ofLabel_eq_ok_iff.mp hknown
        rcases Attempt.bind_eq_error_iff.mp hafter with hsomething | ⟨_, _, hpure⟩
        · exact .something a hsomething
        · contradiction
    next origin entries hempty hsingle =>
      obtain rfl := Except.error.inj hread
      rcases entries with _ | ⟨first, _ | ⟨second, rest⟩⟩
      · exact absurd rfl hempty
      · exact absurd rfl (hsingle first.1 first.2)
      · exact .severalKeys
    next hstring _ _ htable =>
      obtain rfl := Except.error.inj hread
      exact .neither hstring htable
  · intro hfault
    cases hfault with
    | unknownLabel hlabel => exact ofLabel_eq_error_iff.mpr ⟨hlabel, rfl⟩
    | unknownKey hlabel =>
        exact Attempt.bind_eq_error_iff.mpr (Or.inl (ofLabel_eq_error_iff.mpr ⟨hlabel, rfl⟩))
    | something a hsomething =>
        apply Attempt.bind_eq_error_iff.mpr
        refine Or.inr ⟨a, choice_label a, ?_⟩
        exact Attempt.bind_eq_error_iff.mpr (Or.inl hsomething)
    | noKey => rfl
    | severalKeys => rfl
    | neither hstring htable =>
        unfold Toml.choice
        split
        next s => exact absurd rfl (hstring s)
        next => exact absurd rfl (htable _ _)
        next => exact absurd rfl (htable _ _)
        next => exact absurd rfl (htable _ _)
        next => rfl

def choice (α : Type) [Enumerated α] [LawfulEnumerated α] : Reading α where
  read := Format.choice
  Says v a := v = .string (Enumerated.label a) ∨
    ∃ origin nothing, v = .table origin [(Enumerated.label a, nothing)] ∧ SaysNothing nothing
  Faulty := ChoiceFault α
  read_eq_ok_iff _ := choice_eq_ok_iff
  read_eq_error_iff _ := choice_eq_error_iff
  ne_missingKey := by
    intro v mismatch hfault key
    cases hfault with
    | something a hsomething =>
        rintro rfl
        exact checkNothing_ne_missingKey key hsomething
    | _ => simp

end Choice

end Reading

end TargetConfig
