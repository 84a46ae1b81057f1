import Mathlib.Data.List.Nodup
import TargetConfig.Proofs.Toml.Tables

/-! # Tables without a key that occurs twice

A value is proper when neither it nor anything in it is a table with a key that occurs twice. What
the lines of a document add to a table keeps it proper, whether a key is written out, dotted or
named by a header, and so proper statements define a table that is proper all the way down.
-/

namespace TargetConfig.Toml

/-! ## Proper values and tables -/

/-- A value in which no table has a key twice. -/
inductive Value.Proper : Value → Prop
  | string (text : String) : Proper (.string text)
  | integer (value : Int) : Proper (.integer value)
  | float (value : Binary64) : Proper (.float value)
  | boolean (value : Bool) : Proper (.boolean value)
  | datetime (value : Datetime) : Proper (.datetime value)
  | array {items : List Value} (hitems : ∀ item ∈ items, Proper item) : Proper (.array items)
  | tables {elements : List Table}
      (helements : ∀ entries ∈ elements, Proper (.table .header entries)) :
      Proper (.tables elements)
  | table {origin : Origin} {entries : Table} (hdistinct : DistinctKeys entries)
      (hvalues : ∀ entry ∈ entries, Proper entry.2) : Proper (.table origin entries)

namespace Table

/-- A table without a key that occurs twice, in itself or in one of its values. -/
structure Proper (table : Table) : Prop where
  distinct : DistinctKeys table
  values : ∀ entry ∈ table, entry.2.Proper

end Table

theorem Value.proper_table_iff {origin : Origin} {entries : Table} :
    (Value.table origin entries).Proper ↔ entries.Proper := by
  constructor
  · rintro (_ | _ | _ | _ | _ | _ | _ | ⟨hdistinct, hvalues⟩)
    exact ⟨hdistinct, hvalues⟩
  · rintro ⟨hdistinct, hvalues⟩
    exact .table hdistinct hvalues

theorem Value.proper_tables_iff {elements : List Table} :
    (Value.tables elements).Proper ↔ ∀ entries ∈ elements, entries.Proper := by
  constructor
  · rintro (_ | _ | _ | _ | _ | _ | helements | _) entries hentries
    exact Value.proper_table_iff.mp (helements entries hentries)
  · intro helements
    exact .tables fun entries hentries => Value.proper_table_iff.mpr (helements entries hentries)

namespace Table

variable {table : Table} {key : String} {value : Value}

theorem Proper.nil : Proper [] := ⟨List.nodup_nil, by simp⟩

theorem Proper.head {entry : String × Value} (htable : Proper (entry :: table)) :
    entry.2.Proper :=
  htable.values entry List.mem_cons_self

theorem Proper.tail {entry : String × Value} (htable : Proper (entry :: table)) : table.Proper :=
  ⟨(List.nodup_cons.mp htable.distinct).2,
    fun other hother => htable.values other (List.mem_cons_of_mem _ hother)⟩

theorem Proper.single {entry : String × Value} (htable : Proper (entry :: table)) :
    Proper [entry] :=
  ⟨List.nodup_singleton _, List.forall_mem_singleton.mpr htable.head⟩

theorem mem_of_get? (hget : table.get? key = some value) : (key, value) ∈ table := by
  obtain ⟨before, after, rfl, _⟩ := List.lookup_eq_some_iff.mp hget
  exact List.mem_append_right before List.mem_cons_self

theorem get?_eq_some_iff (hdistinct : DistinctKeys table) :
    table.get? key = some value ↔ (key, value) ∈ table := by
  constructor
  · exact mem_of_get?
  · intro hmem
    obtain ⟨before, after, rfl⟩ := List.append_of_mem hmem
    unfold DistinctKeys at hdistinct
    rw [List.map_append, List.map_cons, List.nodup_append] at hdistinct
    apply List.lookup_eq_some_iff.mpr
    refine ⟨before, after, rfl, ?_⟩
    intro entry hentry
    have hne := hdistinct.2.2 _ (List.mem_map_of_mem hentry) key List.mem_cons_self
    simpa using hne.symm

theorem Proper.of_get? (htable : table.Proper) (hget : table.get? key = some value) :
    value.Proper :=
  htable.values _ (mem_of_get? hget)

theorem not_mem_of_get? (hget : table.get? key = none) : key ∉ table.map Prod.fst := by
  intro hmem
  obtain ⟨entry, hentry, rfl⟩ := List.mem_map.mp hmem
  simpa using List.lookup_eq_none_iff.mp hget entry hentry

/-- A new key at the end. -/
theorem Proper.concat (htable : table.Proper) (hkey : key ∉ table.map Prod.fst)
    (hvalue : value.Proper) : (table ++ [(key, value)]).Proper := by
  constructor
  · unfold DistinctKeys
    rw [List.map_append, List.nodup_append]
    refine ⟨htable.distinct, List.nodup_singleton key, ?_⟩
    rintro first hfirst second hsecond rfl
    rw [List.mem_singleton.mp hsecond] at hfirst
    exact hkey hfirst
  · intro entry hentry
    rcases List.mem_append.mp hentry with hold | hnew
    · exact htable.values entry hold
    · rw [List.mem_singleton.mp hnew]
      exact hvalue

theorem keys_replace (key : String) (value : Value) (table : Table) :
    (table.replace key value).map Prod.fst = table.map Prod.fst := by
  induction table with
  | nil => rfl
  | cons entry entries ih =>
      unfold replace
      split
      next hkey => rw [List.map_cons, List.map_cons, hkey]
      next => rw [List.map_cons, List.map_cons, ih]

theorem mem_replace {entry : String × Value} (hentry : entry ∈ table.replace key value) :
    entry ∈ table ∨ entry = (key, value) := by
  induction table with
  | nil => contradiction
  | cons first entries ih =>
      unfold replace at hentry
      split at hentry
      next =>
        rcases List.mem_cons.mp hentry with hnew | hold
        · exact Or.inr hnew
        · exact Or.inl (List.mem_cons_of_mem _ hold)
      next =>
        rcases List.mem_cons.mp hentry with rfl | hrest
        · exact Or.inl List.mem_cons_self
        · exact (ih hrest).imp_left (List.mem_cons_of_mem _)

/-- Another value for a key that is there. -/
theorem Proper.replace (htable : table.Proper) (hvalue : value.Proper) :
    (table.replace key value).Proper := by
  constructor
  · unfold DistinctKeys
    rw [keys_replace]
    exact htable.distinct
  · intro entry hentry
    rcases mem_replace hentry with hold | rfl
    · exact htable.values entry hold
    · exact hvalue

theorem Proper.erase (htable : table.Proper) (key : String) : (table.erase key).Proper := by
  have hsublist : (table.erase key).Sublist table := List.filter_sublist
  exact ⟨htable.distinct.sublist (hsublist.map Prod.fst),
    fun entry hentry => htable.values entry (hsublist.subset hentry)⟩

theorem not_mem_erase (key : String) (table : Table) : key ∉ (table.erase key).map Prod.fst := by
  intro hmem
  obtain ⟨entry, hentry, rfl⟩ := List.mem_map.mp hmem
  simpa using (List.mem_filter.mp hentry).2

/-! ## Assembling a table -/

/-- A change of a table that leaves it proper. -/
def Keeps (change : Table → Option Table) : Prop :=
  ∀ ⦃table result : Table⦄, table.Proper → change table = some result → result.Proper

/-- A new key whose value is a table that a change makes out of nothing. -/
theorem Keeps.missing {change : Table → Option Table} (hchange : Keeps change)
    (htable : table.Proper) (hget : table.get? key = none) {origin : Origin} {result : Table}
    (hresult : (do
      let entries ← change []
      return table ++ [(key, Value.table origin entries)]) = some result) : result.Proper := by
  obtain ⟨entries, hentries, hresult⟩ := Option.bind_eq_some_iff.mp hresult
  obtain rfl := Option.some.inj hresult
  have hproper := hchange Proper.nil hentries
  exact htable.concat (not_mem_of_get? hget) (Value.proper_table_iff.mpr hproper)

/-- A change to a table under a key. -/
theorem Keeps.below {change : Table → Option Table} (hchange : Keeps change)
    (htable : table.Proper) {origin : Origin} {entries : Table}
    (hget : table.get? key = some (.table origin entries)) {result : Table}
    (hresult : (do
      let entries ← change entries
      return table.replace key (Value.table origin entries)) = some result) : result.Proper := by
  obtain ⟨changed, hchanged, hresult⟩ := Option.bind_eq_some_iff.mp hresult
  obtain rfl := Option.some.inj hresult
  have hproper := hchange (Value.proper_table_iff.mp (htable.of_get? hget)) hchanged
  exact htable.replace (Value.proper_table_iff.mpr hproper)

theorem proper_concat_elements {elements : List Table} {entries : Table}
    (helements : (Value.tables elements).Proper) (hentries : entries.Proper) :
    (Value.tables (elements ++ [entries])).Proper := by
  apply Value.proper_tables_iff.mpr
  intro element helement
  rcases List.mem_append.mp helement with hold | hnew
  · exact Value.proper_tables_iff.mp helements element hold
  · rw [List.mem_singleton.mp hnew]
    exact hentries

/-- A change to the last element of an array of tables under a key. -/
theorem Keeps.belowLast {change : Table → Option Table} (hchange : Keeps change)
    (htable : table.Proper) {elements : List Table}
    (hget : table.get? key = some (.tables elements)) {result : Table}
    (hresult : (do
      let last ← elements.getLast?
      let entries ← change last
      return table.replace key (Value.tables (elements.dropLast ++ [entries]))) = some result) :
    result.Proper := by
  obtain ⟨last, hlast, hresult⟩ := Option.bind_eq_some_iff.mp hresult
  obtain ⟨changed, hchanged, hresult⟩ := Option.bind_eq_some_iff.mp hresult
  obtain rfl := Option.some.inj hresult
  have helements := Value.proper_tables_iff.mp (htable.of_get? hget)
  have hproper := hchange (helements last (List.mem_of_getLast? hlast)) hchanged
  apply htable.replace
  apply proper_concat_elements _ hproper
  apply Value.proper_tables_iff.mpr
  intro element helement
  exact helements element (List.dropLast_subset _ helement)

theorem keeps_put (hvalue : value.Proper) (parents : List String) :
    Keeps (put key value parents) := by
  induction parents with
  | nil =>
      intro table result htable hput
      unfold put add? at hput
      split at hput
      next => contradiction
      next hnone =>
        obtain rfl := Option.some.inj hput
        exact htable.concat (not_mem_of_get? (by simpa using hnone)) hvalue
  | cons parent parents ih =>
      intro table result htable hput
      unfold put at hput
      split at hput
      next hget => exact ih.missing htable hget hput
      next hget => exact ih.below htable hget hput
      next hget =>
        split at hput
        next => contradiction
        next => exact ih.below htable hget hput
      next hget =>
        split at hput
        next => contradiction
        next => exact ih.belowLast htable hget hput
      next => contradiction

theorem Keeps.foldlM {α : Type} {change : Table → α → Option Table} {items : List α}
    (hchange : ∀ item ∈ items, Keeps (change · item)) :
    Keeps fun table => items.foldlM change table := by
  induction items with
  | nil =>
      intro table result htable hresult
      obtain rfl := Option.some.inj hresult
      exact htable
  | cons item items ih =>
      intro table result htable hresult
      dsimp only at hresult
      rw [List.foldlM_cons] at hresult
      obtain ⟨next, hfirst, hrest⟩ := Option.bind_eq_some_iff.mp hresult
      obtain ⟨hitem, hitems⟩ := List.forall_mem_cons.mp hchange
      exact ih hitems (hitem htable hfirst) hrest

theorem keeps_putAll {entries : List Entry} (hentries : ∀ entry ∈ entries, entry.value.Proper) :
    Keeps (putAll entries) := by
  apply Keeps.foldlM
  intro entry hentry
  exact keeps_put (hentries entry hentry) entry.path.parents

theorem keeps_modify {change : Table → Option Table} (hchange : Keeps change)
    (parents : List String) : Keeps (modify change parents) := by
  induction parents with
  | nil => exact hchange
  | cons parent parents ih =>
      intro table result htable hmodify
      unfold modify at hmodify
      split at hmodify
      next hget => exact ih.missing htable hget hmodify
      next => contradiction
      next hget => exact ih.below htable hget hmodify
      next hget => exact ih.belowLast htable hget hmodify
      next => contradiction

theorem keeps_addTable (key : String) {entries : List Entry}
    (hentries : ∀ entry ∈ entries, entry.value.Proper) : Keeps (addTable key entries) := by
  intro table result htable hadd
  have hput := keeps_putAll hentries
  unfold addTable at hadd
  split at hadd
  next hget => exact hput.missing htable hget hadd
  next old hget =>
    obtain ⟨added, hadded, hresult⟩ := Option.bind_eq_some_iff.mp hadd
    obtain rfl := Option.some.inj hresult
    have hproper := hput (Value.proper_table_iff.mp (htable.of_get? hget)) hadded
    exact (htable.erase key).concat (not_mem_erase key table) (Value.proper_table_iff.mpr hproper)
  next => contradiction

theorem keeps_addElement (key : String) {entries : List Entry}
    (hentries : ∀ entry ∈ entries, entry.value.Proper) : Keeps (addElement key entries) := by
  intro table result htable hadd
  unfold addElement at hadd
  split at hadd
  next hget =>
    obtain ⟨added, hadded, hresult⟩ := Option.bind_eq_some_iff.mp hadd
    obtain rfl := Option.some.inj hresult
    have hproper := keeps_putAll hentries Proper.nil hadded
    apply htable.concat (not_mem_of_get? hget)
    exact Value.proper_tables_iff.mpr (List.forall_mem_singleton.mpr hproper)
  next elements hget =>
    obtain ⟨added, hadded, hresult⟩ := Option.bind_eq_some_iff.mp hadd
    obtain rfl := Option.some.inj hresult
    have hproper := keeps_putAll hentries Proper.nil hadded
    exact htable.replace (proper_concat_elements (htable.of_get? hget) hproper)
  next => contradiction

theorem keeps_addSection {part : Section} (hentries : ∀ entry ∈ part.entries, entry.value.Proper) :
    Keeps (addSection · part) := by
  apply keeps_modify
  split
  next => exact keeps_addElement _ hentries
  next => exact keeps_addTable _ hentries

end Table

/-- A statement that states no value, or a proper one. -/
def Statement.Proper : Statement → Prop
  | .entry stated => stated.value.Proper
  | .table _ => True
  | .element _ => True

namespace Table

theorem proper_sections {statements : List Statement}
    (hstatements : ∀ statement ∈ statements, statement.Proper) :
    (∀ entry ∈ (sections statements).1, entry.value.Proper) ∧
      ∀ part ∈ (sections statements).2, ∀ entry ∈ part.entries, entry.value.Proper := by
  induction statements with
  | nil => exact ⟨by simp [sections], by simp [sections]⟩
  | cons statement statements ih =>
      obtain ⟨hstatement, hothers⟩ := List.forall_mem_cons.mp hstatements
      obtain ⟨hentries, hparts⟩ := ih hothers
      -- an entry goes to the others, a header closes them in a section
      cases statement with
      | entry entry => exact ⟨List.forall_mem_cons.mpr ⟨hstatement, hentries⟩, hparts⟩
      | table path => exact ⟨by simp [sections], List.forall_mem_cons.mpr ⟨hentries, hparts⟩⟩
      | element path => exact ⟨by simp [sections], List.forall_mem_cons.mpr ⟨hentries, hparts⟩⟩

theorem proper_ofStatements {statements : List Statement}
    (hstatements : ∀ statement ∈ statements, statement.Proper) {table : Table}
    (htable : ofStatements statements = some table) : table.Proper := by
  obtain ⟨hentries, hparts⟩ := proper_sections hstatements
  obtain ⟨first, hfirst, hrest⟩ := Option.bind_eq_some_iff.mp htable
  refine Keeps.foldlM ?_ (keeps_putAll hentries Proper.nil hfirst) hrest
  intro part hpart
  exact keeps_addSection (hparts part hpart)

end Table

end TargetConfig.Toml
