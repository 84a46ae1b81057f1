import Mathlib.Logic.Relation
import TargetConfig.Proofs.Profile.Fields
import TargetConfig.Proofs.Toml.Yields

/-! # What the document of a configuration says

A document is read by way of its table, in which no key occurs twice. What it says does not change
when its entries, or those of its options, stand in another order, when entries with unknown keys
come or go, or when what holds anyway is written out. Only the reason of a failure has to do with
the order: it is that of the first value that does not fit, where those of the options count in the
place of the options, and a missing triple is the reason only when nothing else is wrong.
-/

namespace TargetConfig

open Toml

/-! ## Messages -/

theorem head?_append {first rest : String} {c : Char} (hfirst : first.toList.head? = some c) :
    (first ++ rest).toList.head? = some c := by
  rw [String.toList_append, List.head?_append, hfirst]
  rfl

/-- Only the message about a missing key begins like one. -/
theorem Mismatch.eq_missingKey_of_message {mismatch : Mismatch} {key : String}
    (hmessage : mismatch.message = (missingKey key).message) :
    ∃ other, mismatch = .missingKey other := by
  have hfirst : mismatch.message.toList.head? = some 'm' := by
    rw [hmessage]
    exact head?_append (head?_append (by decide))
  have hother : ∀ c ≠ 'm', mismatch.message.toList.head? ≠ some c := by
    intro c hc hhead
    exact hc (Option.some.inj (hhead.symm.trans hfirst))
  cases mismatch with
  | missingKey key => exact ⟨key, rfl⟩
  | wrongType | wrongLength =>
      exact absurd (head?_append (head?_append (head?_append (by decide))))
        (hother 'i' (by decide))
  | unknownLabel =>
      exact absurd (head?_append (head?_append (head?_append (by decide))))
        (hother 'u' (by decide))
  | notOneElement => exact absurd (head?_append (by decide)) (hother 'w' (by decide))
  | notTable => exact absurd (head?_append (by decide)) (hother 'e' (by decide))
  | notSingleKey => exact absurd (by decide) (hother 'i' (by decide))
  | notStringOrTable => exact absurd (by decide) (hother 'w' (by decide))
  | notEmptyTable | notEmptyArray => exact absurd (by decide) (hother 'e' (by decide))

namespace Profile

variable {table first second : Table} {profile : Profile} {text : String}

/-! ## Edits -/

/-- An edit of the table of a document that leaves the settings as they are: in the table itself, or
in the table of the options. -/
inductive Edit : Table → Table → Prop
  | outside {first second : Table} (hedit : layout.Edit first second) : Edit first second
  | inside {first second rest : Table} {origin other : Origin}
      (hedit : TargetOptions.layout.Edit first second) :
      Edit (("target-options", .table origin first) :: rest)
        (("target-options", .table other second) :: rest)

/-- Tables that edits turn into one another, with no key twice on the way. -/
def SameSettings : Table → Table → Prop :=
  Relation.EqvGen fun first second => first.Proper ∧ second.Proper ∧ Edit first second

theorem Edit.describes_iff (hedit : Edit first second) (hfirst : first.Proper)
    (hsecond : second.Proper) :
    layout.Describes first profile ↔ layout.Describes second profile := by
  cases hedit with
  | outside hedit => exact hedit.describes_iff hfirst hsecond
  | @inside first second rest origin other hedit =>
      apply forall₂_congr
      intro field hfield
      by_cases hkey : field.key = "target-options"
      · obtain rfl : field = optionsField :=
          Layout.eq_of_key_eq hfield (by simp [layout]) hkey
        rw [Field.is_cons_self hkey, Field.is_cons_self hkey]
        have hinner : first.Proper := Value.proper_table_iff.mp hfirst.head
        have hinner' : second.Proper := Value.proper_table_iff.mp hsecond.head
        exact TargetOptions.says_table_iff.trans
          ((hedit.describes_iff hinner hinner').trans TargetOptions.says_table_iff.symm)
      · rw [Field.is_cons_of_ne hkey, Field.is_cons_of_ne hkey]

theorem describes_iff_of_same (hsame : SameSettings first second) :
    layout.Describes first profile ↔ layout.Describes second profile := by
  induction hsame with
  | rel first second hstep => exact hstep.2.2.describes_iff hstep.1 hstep.2.1
  | refl => rfl
  | symm _ _ _ ih => exact ih.symm
  | trans _ _ _ _ _ ihfirst ihsecond => exact ihfirst.trans ihsecond

/-! ## Documents -/

theorem parse_eq_ok_iff (hdocument : Document.parse text = some table) :
    parse text = .ok profile ↔ layout.Describes table profile := by
  simp only [← ofEntries_eq_ok_iff (Document.proper_of_parse hdocument), parse, hdocument]
  cases ofEntries table with
  | ok other => simp
  | error mismatch => simp

theorem parse_eq_error_iff (hdocument : Document.parse text = some table) {error : ConfigError} :
    parse text = .error error ↔ ∃ mismatch, error = .document mismatch.message ∧
      (layout.FirstFault table mismatch ∨
        (∀ entry ∈ table, layout.Fits entry) ∧ table.get? "triple" = none ∧
          mismatch = .missingKey "triple") := by
  simp only [← ofEntries_eq_error_iff (Document.proper_of_parse hdocument), parse, hdocument]
  cases ofEntries table with
  | ok other => simp
  | error mismatch => simp [eq_comm]

/-- A document is accepted if the triple is a text and whatever else it says fits. -/
theorem exists_parse_iff (hdocument : Document.parse text = some table) :
    (∃ profile, parse text = .ok profile) ↔
      (∃ triple, table.get? "triple" = some (.string triple)) ∧
        ∀ entry ∈ table, layout.Fits entry := by
  simp only [parse_eq_ok_iff hdocument]
  rw [Layout.exists_describes_iff (Document.proper_of_parse hdocument), complete_layout_iff,
    and_comm]
  apply and_congr_left
  intro hfits
  constructor
  · intro htriple
    obtain ⟨v, hget⟩ := Option.isSome_iff_exists.mp htriple
    have hmem := Table.mem_of_get? hget
    obtain ⟨triple, rfl⟩ := hfits _ hmem tripleField (by simp [layout]) rfl
    exact ⟨triple, hget⟩
  · rintro ⟨triple, htriple⟩
    rw [htriple]
    rfl

theorem fallback_eq_of_ne_triple (triple : String) :
    ∀ field ∈ layout.fields, field.key ≠ "triple" →
      field.fallback = some (field.get { triple }) := by
  simp [layout, tripleField, optionsField]

theorem parse_only_triple (hdocument : Document.parse text = some table) {triple : String}
    (htriple : table.get? "triple" = some (.string triple))
    (hothers : ∀ key ∈ keys, key ≠ "triple" → table.get? key = none) :
    parse text = .ok { triple } := by
  rw [parse_eq_ok_iff hdocument]
  intro field hfield
  by_cases hkey : field.key = "triple"
  · obtain rfl : field = tripleField := Layout.eq_of_key_eq hfield (by simp [layout]) hkey
    rw [Field.Is, hkey, htriple]
    rfl
  · have hmissing := hothers field.key (List.mem_map_of_mem hfield) hkey
    rw [Field.Is, hmissing]
    exact fallback_eq_of_ne_triple triple field hfield hkey

theorem parse_eq_missing_iff (hdocument : Document.parse text = some table) :
    parse text = .error (.document (Mismatch.missingKey "triple").message) ↔
      (∀ entry ∈ table, layout.Fits entry) ∧ table.get? "triple" = none := by
  rw [parse_eq_error_iff hdocument]
  constructor
  · rintro ⟨mismatch, hmessage, hfault | ⟨hfits, hmissing, _⟩⟩
    · obtain ⟨key, rfl⟩ :=
        Mismatch.eq_missingKey_of_message (ConfigError.document.inj hmessage).symm
      exact absurd rfl (hfault.ne_missingKey key)
    · exact ⟨hfits, hmissing⟩
  · rintro ⟨hfits, hmissing⟩
    exact ⟨_, rfl, Or.inr ⟨hfits, hmissing, rfl⟩⟩

/-- A document is accepted just when its triple is a text and every other known key that is there
has a value that fits, where the value of the options fits if the known keys in it do. The profile
is what the fields say one by one, so it is the same for every document with the same settings, and
with only a triple it makes the configuration with every setting open. The reason of a failure is
that of the first value that does not fit, and a missing triple if all of them do. -/
theorem parse_exact (hdocument : Document.parse text = some table) :
    ((∃ profile, parse text = .ok profile) ↔
      (∃ triple, table.get? "triple" = some (.string triple)) ∧
        ∀ entry ∈ table, layout.Fits entry) ∧
    (∀ v, table.get? "target-options" = some v →
      ((∃ options, TargetOptions.reading.Says v options) ↔
        ∃ entries, TargetOptions.entries? v = some entries ∧
          ∀ entry ∈ entries, TargetOptions.layout.Fits entry)) ∧
    (∀ profile, parse text = .ok profile ↔ layout.Describes table profile) ∧
    (∀ other edited, Document.parse other = some edited → SameSettings table edited →
      ∀ profile, parse other = .ok profile ↔ parse text = .ok profile) ∧
    (∀ triple, table.get? "triple" = some (.string triple) →
      (∀ key ∈ keys, key ≠ "triple" → table.get? key = none) →
      ∃ profile, parse text = .ok profile ∧ profile.toConfig = ⟨Config.new triple, []⟩) ∧
    (∀ error, parse text = .error error ↔ ∃ mismatch, error = .document mismatch.message ∧
      (layout.FirstFault table mismatch ∨
        (∀ entry ∈ table, layout.Fits entry) ∧ table.get? "triple" = none ∧
          mismatch = .missingKey "triple")) ∧
    (parse text = .error (.document "missing field `triple`") ↔
      (∀ entry ∈ table, layout.Fits entry) ∧ table.get? "triple" = none) := by
  refine ⟨exists_parse_iff hdocument, ?_, fun _ => parse_eq_ok_iff hdocument, ?_, ?_,
    fun _ => parse_eq_error_iff hdocument, parse_eq_missing_iff hdocument⟩
  · intro v hget
    exact TargetOptions.exists_says_iff ((Document.proper_of_parse hdocument).of_get? hget)
  · intro other edited hedited hsame profile
    rw [parse_eq_ok_iff hedited, parse_eq_ok_iff hdocument, describes_iff_of_same hsame]
  · intro triple htriple hothers
    exact ⟨{ triple }, parse_only_triple hdocument htriple hothers, rfl⟩

/-- An unknown key may be taken out of a document. -/
theorem parse_exact_without_note :
    Document.parse
        "note = \"kept\"\ntriple = \"wasm32\"\n\n[target-options]\nemulated-tls = true\n" =
      some [("note", .string "kept"), ("triple", .string "wasm32"),
        ("target-options", .table .header [("emulated-tls", .boolean true)])] ∧
    parse "note = \"kept\"\ntriple = \"wasm32\"\n\n[target-options]\nemulated-tls = true\n" =
      .ok { triple := "wasm32", targetOptions := { emulatedTls := true } } ∧
    parse "triple = \"wasm32\"\n\n[target-options]\nemulated-tls = true\n" =
      .ok { triple := "wasm32", targetOptions := { emulatedTls := true } } := by
  let plain : Table := [("triple", .string "wasm32"),
    ("target-options", .table .header [("emulated-tls", .boolean true)])]
  have hplain : Document.parse "triple = \"wasm32\"\n\n[target-options]\nemulated-tls = true\n" =
      some plain := by
    have hlines := @Document.parse_lines [.ofString "triple" "wasm32"]
      [.ofBoolean "emulated-tls" true] "target-options" (by decide) (by decide) (by decide)
      (by decide)
    exact (congrArg Document.parse (by decide +kernel)).trans hlines
  have hnoted : Document.parse
      "note = \"kept\"\ntriple = \"wasm32\"\n\n[target-options]\nemulated-tls = true\n" =
      some (("note", .string "kept") :: plain) := by
    have hlines := @Document.parse_lines [.ofString "note" "kept", .ofString "triple" "wasm32"]
      [.ofBoolean "emulated-tls" true] "target-options" (by decide) (by decide) (by decide)
      (by decide)
    exact (congrArg Document.parse (by decide +kernel)).trans hlines
  have hsame : SameSettings (("note", .string "kept") :: plain) plain := by
    have hproper := Document.proper_of_parse hnoted
    apply Relation.EqvGen.symm
    apply Relation.EqvGen.rel
    refine ⟨hproper.tail, hproper, .outside (.unknown ?_)⟩
    simp [layout, tripleField, optionsField]
  have hoptions : TargetOptions.layout.Describes [("emulated-tls", .boolean true)]
      { emulatedTls := true } := by
    simp [Layout.Describes, TargetOptions.layout, Field.Is, Table.get?, List.lookup_cons]
  have hdescribes : layout.Describes (("note", .string "kept") :: plain)
      { triple := "wasm32", targetOptions := { emulatedTls := true } } := by
    simpa [Layout.Describes, layout, tripleField, optionsField, Field.Is, Table.get?, List.lookup_cons,
      plain] using hoptions
  obtain ⟨_, _, hok, hedits, _⟩ := parse_exact hnoted
  have hread := (hok _).mpr hdescribes
  exact ⟨hnoted, hread, (hedits _ _ hplain hsame _).mpr hread⟩

end Profile

end TargetConfig
