import TargetConfig.Proofs.Toml.Statements

/-! # Tables from plain statements

A document whose keys have no dots and occur once defines the table of its entries in order. A
section under a header adds one entry, with the table of the entries in the section.
-/

namespace TargetConfig.Toml

/-- Entries with different keys. -/
def DistinctKeys (entries : Table) : Prop := (entries.map Prod.fst).Nodup

instance (entries : Table) : Decidable (DistinctKeys entries) :=
  inferInstanceAs (Decidable (List.Nodup _))

namespace Table

theorem get?_eq_none {key : String} {table : Table} (hkey : key ∉ table.map Prod.fst) :
    table.get? key = none := by
  unfold get?
  rw [List.lookup_eq_none_iff]
  intro entry hentry
  simp only [bne_iff_ne, ne_eq]
  rintro rfl
  exact hkey (List.mem_map_of_mem hentry)

/-- Entries that have no dots in their keys come to stand at the end of the table. -/
theorem putAll_plainEntry {entries table : Table} (hdistinct : DistinctKeys (table ++ entries)) :
    putAll (entries.map plainEntry) table = some (table ++ entries) := by
  induction entries generalizing table with
  | nil => simp [putAll]
  | cons entry entries ih =>
      have hkey : entry.1 ∉ table.map Prod.fst := by
        intro hmem
        unfold DistinctKeys at hdistinct
        rw [List.map_append, List.nodup_append] at hdistinct
        exact hdistinct.2.2 _ hmem _ (by simp) rfl
      have hput : put entry.1 entry.2 [] table = some (table ++ [entry]) := by
        simp [put, add?, get?_eq_none hkey]
      -- the entry is part of the table that the rest is added to
      have hrest := @ih (table ++ [entry]) (by simpa using hdistinct)
      unfold putAll at hrest ⊢
      rw [List.map_cons, List.foldlM_cons]
      simp only [plainEntry] at hput hrest ⊢
      rw [hput]
      simpa using hrest

theorem sections_entries (entries : List Entry) (statements : List Statement) :
    sections (entries.map .entry ++ statements) =
      (entries ++ (sections statements).1, (sections statements).2) := by
  induction entries with
  | nil => rfl
  | cons entry entries ih =>
      rw [List.map_cons, List.cons_append, sections, ih]
      rfl

/-- A document with entries, one header and the entries of its section. -/
theorem ofStatements_section {entries inner : Table} {key : String}
    (hentries : DistinctKeys entries) (hinner : DistinctKeys inner)
    (hkey : key ∉ entries.map Prod.fst) :
    ofStatements ((entries.map plainEntry).map .entry ++
        .table ⟨[], key⟩ :: (inner.map plainEntry).map .entry) =
      some (entries ++ [(key, .table .header inner)]) := by
  have hbody : sections ((inner.map plainEntry).map .entry) = (inner.map plainEntry, []) := by
    have hsections := sections_entries (inner.map plainEntry) []
    simpa [sections] using hsections
  have houter := @putAll_plainEntry entries [] (by simpa using hentries)
  have hsection := @putAll_plainEntry inner [] (by simpa using hinner)
  rw [List.nil_append] at houter hsection
  have hadd : addSection entries ⟨false, ⟨[], key⟩, inner.map plainEntry⟩ =
      some (entries ++ [(key, .table .header inner)]) := by
    simp [addSection, modify, addTable, get?_eq_none hkey, hsection]
  rw [ofStatements, sections_entries, sections, hbody]
  simp only [List.append_nil, houter, Option.bind_some, List.foldlM_cons, List.foldlM_nil, hadd,
    Option.bind_eq_bind, Option.pure_def]

end Table

/-- A document of lines, one header and the lines below it defines the table of their entries. -/
theorem Document.parse_lines {lines inner : List EntryLine} {key : String} (hbare : IsBareKey key)
    (hlines : DistinctKeys (lines.map EntryLine.entry))
    (hinner : DistinctKeys (inner.map EntryLine.entry))
    (hkey : key ∉ (lines.map EntryLine.entry).map Prod.fst) :
    Document.parse (String.ofList (lines.flatMap EntryLine.render ++ '\n' :: '[' :: key.toList ++
        ']' :: '\n' :: inner.flatMap EntryLine.render)) =
      some (lines.map EntryLine.entry ++ [(key, .table .header (inner.map EntryLine.entry))]) := by
  -- neither a key nor a line end is a byte order mark
  have hmark : ∀ rest, Document.withoutMark (lines.flatMap EntryLine.render ++ '\n' :: rest) =
      lines.flatMap EntryLine.render ++ '\n' :: rest := by
    intro rest
    cases lines with
    | nil => rfl
    | cons line lines =>
        obtain ⟨c, s, hcons, hc⟩ := line.bare.eq_cons
        have hne : c ≠ '\ufeff' := by
          rintro rfl
          exact absurd hc (by decide)
        rw [List.flatMap_cons, EntryLine.render, writeLine, hcons]
        simp [Document.withoutMark, hne]
  have hstated := ((EntryLine.statedAs_lines lines).append StatedAs.blank).append
    ((StatedAs.header hbare).append (EntryLine.statedAs_lines inner))
  have hread := hstated.statements?_eq
  simp only [List.append_assoc, List.cons_append, List.nil_append] at hread ⊢
  rw [Document.parse, String.toList_ofList, hmark, hread, Option.bind_some]
  exact Table.ofStatements_section hlines hinner hkey

end TargetConfig.Toml
