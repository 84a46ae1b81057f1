import TargetConfig.Proofs.Toml.Tables

/-! # Profiles survive a document

The document of a profile is a list of lines, each of which states one entry. Reading the document
gives the table of these entries, and reading the table gives the profile: every text, list and
choice comes back as it was, and a processor that was left out comes back as the empty text.
-/

namespace TargetConfig

/-! ## Labels -/

/-- A type whose values are read back from their labels, so that no two share one. -/
class LawfulEnumerated (α : Type) [Enumerated α] : Prop where
  ofLabel?_label (a : α) : Enumerated.ofLabel? (Enumerated.label a) = some a

instance : LawfulEnumerated CodeModel where
  ofLabel?_label a := by cases a <;> rfl

instance : LawfulEnumerated OptimizationLevel where
  ofLabel?_label a := by cases a <;> rfl

instance : LawfulEnumerated RelocationModel where
  ofLabel?_label a := by cases a <;> rfl

instance : LawfulEnumerated FloatAbi where
  ofLabel?_label a := by cases a <;> rfl

namespace Toml

/-! ## Values -/

theorem choice_label {α : Type} [Enumerated α] [LawfulEnumerated α] (a : α) :
    Format.choice (Value.string (Enumerated.label a)) = .ok a := by
  change Format.ofLabel (Enumerated.label a) = _
  rw [Format.ofLabel, LawfulEnumerated.ofLabel?_label]

theorem text_string (text : String) : Format.text (Value.string text) = .ok text := rfl

theorem truth_boolean (value : Bool) : Format.truth (Value.boolean value) = .ok value := rfl

theorem texts_array (texts : List String) :
    Format.texts (Value.array (texts.map .string)) = .ok texts := by
  have hitems : (texts.map Value.string).mapM Format.text = (.ok texts : Except Mismatch _) := by
    induction texts with
    | nil => rfl
    | cons text texts ih =>
        rw [List.map_cons, List.mapM_cons, text_string, ih]
        rfl
  exact hitems

end Toml

open Toml

/-! ## Options -/

namespace TargetOptions

/-- The lines of the options in a document. -/
def lines (options : TargetOptions) : List EntryLine := [
  .ofChoice "float-abi" options.floatAbi,
  .ofBoolean "no-frame-pointer-elim" options.noFramePointerElim,
  .ofBoolean "unsafe-fp-math" options.unsafeFpMath,
  .ofBoolean "no-infs-fp-math" options.noInfsFpMath,
  .ofBoolean "no-nans-fp-math" options.noNansFpMath,
  .ofBoolean "use-init-array" options.useInitArray,
  .ofBoolean "function-sections" options.functionSections,
  .ofBoolean "data-sections" options.dataSections,
  .ofBoolean "emulated-tls" options.emulatedTls]

/-- The table of the options in a document. -/
def table (options : TargetOptions) : Table := options.lines.map EntryLine.entry

theorem render_eq_lines (options : TargetOptions) :
    options.render = options.lines.flatMap EntryLine.render := by
  simp [render, lines, EntryLine.render, EntryLine.ofChoice, EntryLine.ofString,
    EntryLine.ofBoolean, writeChoice]

theorem distinctKeys_table (options : TargetOptions) : DistinctKeys options.table := by
  change keys.Nodup
  decide

theorem setAll_table (options : TargetOptions) : setAll {} options.table = .ok options := by
  simp only [setAll, table, lines, List.map_cons, List.map_nil, List.foldlM_cons, List.foldlM_nil,
    EntryLine.entry, EntryLine.ofChoice, EntryLine.ofString, EntryLine.ofBoolean, set,
    choice_label, truth_boolean]
  rfl

theorem read_table (options : TargetOptions) :
    read (Value.table .header options.table) = .ok options :=
  setAll_table options

end TargetOptions

namespace Profile

/-- The lines of a profile before its options. The empty processor has none. -/
def lines (profile : Profile) : List EntryLine :=
  [.ofString "triple" profile.triple]
    ++ (if profile.cpu.isEmpty then [] else [.ofString "cpu" profile.cpu])
    ++ [.ofTexts "features" profile.features,
      .ofChoice "code-model" profile.codeModel,
      .ofChoice "optimization-level" profile.optimizationLevel,
      .ofChoice "relocation-model" profile.relocationModel]

/-- The table that the document of a profile defines. -/
def table (profile : Profile) : Table :=
  profile.lines.map EntryLine.entry
    ++ [("target-options", .table .header profile.targetOptions.table)]

theorem render_eq_lines (profile : Profile) :
    profile.render = String.ofList (profile.lines.flatMap EntryLine.render ++
      '\n' :: '[' :: "target-options".toList ++
        ']' :: '\n' :: profile.targetOptions.lines.flatMap EntryLine.render) := by
  have hcpu : (if profile.cpu.isEmpty then []
      else writeLine "cpu" (writeString profile.cpu.toList)) =
      (if profile.cpu.isEmpty then [] else [EntryLine.ofString "cpu" profile.cpu]).flatMap
        EntryLine.render := by
    split <;> simp [EntryLine.render, EntryLine.ofString]
  rw [render, hcpu, TargetOptions.render_eq_lines]
  simp [lines, EntryLine.render, EntryLine.ofChoice, EntryLine.ofString, EntryLine.ofTexts,
    writeChoice]

/-- The lines before the options have keys of a profile, in their order. -/
theorem keys_lines (profile : Profile) :
    ((profile.lines.map EntryLine.entry).map Prod.fst).Sublist keys.dropLast := by
  unfold lines
  split
  next => exact List.Sublist.cons_cons _ (List.Sublist.cons _ (List.Sublist.refl _))
  next => exact List.Sublist.refl _

theorem distinctKeys_lines (profile : Profile) :
    DistinctKeys (profile.lines.map EntryLine.entry) :=
  profile.keys_lines.nodup (by decide)

theorem document_parse_render (profile : Profile) :
    Document.parse profile.render = some profile.table := by
  have hkey : "target-options" ∉ (profile.lines.map EntryLine.entry).map Prod.fst := by
    intro hmem
    exact absurd (profile.keys_lines.subset hmem) (by decide)
  rw [render_eq_lines, table]
  exact Document.parse_lines (by decide) profile.distinctKeys_lines
    profile.targetOptions.distinctKeys_table hkey

theorem setAll_append (profile : Profile) (first second : Table) :
    profile.setAll (first ++ second) = (profile.setAll first).bind (setAll · second) := by
  unfold setAll
  rw [List.foldlM_append]
  rfl

/-- The entry of the processor sets it, and without an entry it stays empty. -/
theorem setAll_cpu (profile : Profile) (cpu : String) (hempty : profile.cpu = "") :
    profile.setAll ((if cpu.isEmpty then [] else [EntryLine.ofString "cpu" cpu]).map
      EntryLine.entry) = .ok { profile with cpu } := by
  split
  next hcpu =>
    obtain rfl : cpu = "" := by simpa using hcpu
    rw [← hempty]
    rfl
  next => rfl

theorem setAll_table (profile : Profile) :
    setAll { triple := "" } profile.table = .ok profile := by
  -- up to the processor the entries vary, from then on they are always the same
  have htriple : setAll { triple := "" } ([EntryLine.ofString "triple" profile.triple].map
      EntryLine.entry) = .ok { triple := profile.triple } := rfl
  simp only [table, lines, List.map_append, setAll_append, htriple, Except.bind, setAll_cpu]
  simp only [setAll, List.map_cons, List.map_nil, List.foldlM_cons, List.foldlM_nil,
    EntryLine.entry, EntryLine.ofChoice, EntryLine.ofString, EntryLine.ofTexts, set,
    choice_label, texts_array, TargetOptions.read_table]
  rfl

theorem ofEntries_table (profile : Profile) : ofEntries profile.table = .ok profile := by
  have htriple : (profile.table.lookup "triple").isSome = true := rfl
  rw [ofEntries, setAll_table]
  simp only [bind, Except.bind, htriple, if_true]
  rfl

/-- A document is read by way of the table that it defines. -/
theorem parse_of_document {text : String} {table : Table} {profile : Profile}
    (hdocument : Document.parse text = some table) (hentries : ofEntries table = .ok profile) :
    parse text = .ok profile := by
  simp only [parse, hdocument, hentries]

/-- Reading what was written gives the profile back, whatever its texts, features and settings. -/
theorem parse_render (profile : Profile) : parse profile.render = .ok profile :=
  parse_of_document profile.document_parse_render profile.ofEntries_table

end Profile

end TargetConfig
