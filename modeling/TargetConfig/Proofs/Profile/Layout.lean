import TargetConfig.Proofs.Profile.Reading

/-! # Records read field by field

A layout lists the fields of a record, each with its key, its reading and what it is where the key
is missing. The entries of a table set the fields one after another. What comes out is described
without that order: every field is what its key says, wherever the key stands. Only a failure has
to do with the order, since the first value that does not fit ends the reading.
-/

namespace TargetConfig

open Toml

/-- A field of a record. -/
structure Field (ρ : Type) where
  key : String
  {type : Type}
  reading : Reading type
  /-- What the field is where the key is missing; without it the key must be there. -/
  fallback : Option type
  get : ρ → type
  put : ρ → type → ρ
  get_put : ∀ record a, get (put record a) = a

/-- The fields of a record, and the record that entries are read into. -/
structure Layout (ρ : Type) where
  fields : List (Field ρ)
  initial : ρ
  nodup : (fields.map Field.key).Nodup
  get_put_of_ne : ∀ field ∈ fields, ∀ other ∈ fields, field.key ≠ other.key →
    ∀ record a, field.get (other.put record a) = field.get record
  ext : ∀ record other, (∀ field ∈ fields, field.get record = field.get other) → record = other
  get_initial : ∀ field ∈ fields, ∀ a ∈ field.fallback, field.get initial = a

namespace Field

variable {ρ : Type} {field : Field ρ} {key : String} {v : Value} {entries table : Table}
  {otherwise : Option field.type} {a b : field.type}

/-- The field is this according to a table, given what it is otherwise. -/
def Is (field : Field ρ) (table : Table) (otherwise : Option field.type) (a : field.type) : Prop :=
  match table.get? field.key with
  | some v => field.reading.Says v a
  | none => otherwise = some a

theorem is_nil : field.Is [] otherwise a ↔ otherwise = some a := Iff.rfl

theorem is_of_not_mem (hkey : field.key ∉ table.map Prod.fst) :
    field.Is table otherwise a ↔ otherwise = some a := by
  simp [Is, Table.get?_eq_none hkey]

theorem is_cons_self (hkey : field.key = key) :
    field.Is ((key, v) :: entries) otherwise a ↔ field.reading.Says v a := by
  simp [Is, Table.get?, hkey]

theorem is_cons_of_ne (hkey : field.key ≠ key) :
    field.Is ((key, v) :: entries) otherwise a ↔ field.Is entries otherwise a := by
  have hbeq : (field.key == key) = false := by simpa using hkey
  simp [Is, Table.get?, List.lookup_cons, hbeq]

/-- The first entry decides what the field is otherwise according to the rest. -/
theorem is_cons_iff (hdistinct : DistinctKeys ((key, v) :: entries)) {c : field.type} :
    field.Is ((key, v) :: entries) (some a) c ↔
      ∃ b, field.Is [(key, v)] (some a) b ∧ field.Is entries (some b) c := by
  by_cases hkey : field.key = key
  · have hrest : field.key ∉ entries.map Prod.fst := by
      rw [hkey]
      exact (List.nodup_cons.mp hdistinct).1
    simp only [is_cons_self hkey, is_of_not_mem hrest, Option.some.injEq, exists_eq_right]
  · simp only [is_cons_of_ne hkey, is_nil, Option.some.injEq, exists_eq_left']

theorem Is.unique (htable : table.Proper) (ha : field.Is table otherwise a)
    (hb : field.Is table otherwise b) : a = b := by
  unfold Is at ha hb
  split at ha
  next v hget =>
    rw [hget] at hb
    exact ha.unique (htable.of_get? hget) hb
  next hget =>
    rw [hget] at hb
    exact Option.some.inj (ha.symm.trans hb)

/-- A field that has no value otherwise needs its key. -/
theorem is_none_iff (b : field.type) :
    field.Is table none a ↔ (table.get? field.key).isSome ∧ field.Is table (some b) a := by
  unfold Is
  cases table.get? field.key with
  | none => simp
  | some v => simp

end Field

namespace Layout

variable {ρ : Type} (layout : Layout ρ) {record result : ρ} {key : String} {v : Value}
  {entry : String × Value} {entries table : Table} {mismatch : Mismatch}

/-! ## One entry -/

/-- Sets the field with the given key; an unknown key changes nothing. -/
def set (record : ρ) (key : String) (v : Value) : Except Mismatch ρ :=
  match layout.fields.find? (·.key = key) with
  | some field => do return field.put record (← field.reading.read v)
  | none => .ok record

/-- An entry whose value fits its key. An unknown key takes any value. -/
def Fits (entry : String × Value) : Prop :=
  ∀ field ∈ layout.fields, field.key = entry.1 → ∃ a, field.reading.Says entry.2 a

/-- An entry whose value has a fault for its key. -/
def Faulty (entry : String × Value) (mismatch : Mismatch) : Prop :=
  ∃ field ∈ layout.fields, field.key = entry.1 ∧ field.reading.Faulty entry.2 mismatch

variable {layout}

theorem eq_of_key_eq {field other : Field ρ} (hfield : field ∈ layout.fields)
    (hother : other ∈ layout.fields) (hkey : field.key = other.key) : field = other :=
  List.inj_on_of_nodup_map layout.nodup hfield hother hkey

theorem set_of_mem {field : Field ρ} (hfield : field ∈ layout.fields) (hkey : field.key = key) :
    layout.set record key v = (do return field.put record (← field.reading.read v)) := by
  have hfind : layout.fields.find? (·.key = key) = some field := by
    obtain ⟨other, hother⟩ := Option.isSome_iff_exists.mp
      (List.find?_isSome (p := fun field : Field ρ => field.key = key).mpr
        ⟨field, hfield, by simpa using hkey⟩)
    have hmem := List.mem_of_find?_eq_some hother
    have hother_key : other.key = key := by simpa using List.find?_some hother
    rw [hother, eq_of_key_eq hmem hfield (hother_key.trans hkey.symm)]
  rw [set, hfind]

theorem set_of_unknown (hkey : ∀ field ∈ layout.fields, field.key ≠ key) :
    layout.set record key v = .ok record := by
  have hfind : layout.fields.find? (·.key = key) = none := by
    simpa using hkey
  rw [set, hfind]

theorem set_eq_error_iff (hv : v.Proper) :
    layout.set record key v = .error mismatch ↔ layout.Faulty (key, v) mismatch := by
  constructor
  · intro hset
    by_cases hknown : ∃ field ∈ layout.fields, field.key = key
    · obtain ⟨field, hfield, hkey⟩ := hknown
      rw [set_of_mem hfield hkey] at hset
      rcases Attempt.bind_eq_error_iff.mp hset with hread | ⟨_, _, hpure⟩
      · exact ⟨field, hfield, hkey, (field.reading.read_eq_error_iff hv).mp hread⟩
      · contradiction
    · push Not at hknown
      rw [set_of_unknown hknown] at hset
      contradiction
  · rintro ⟨field, hfield, hkey, hfaulty⟩
    rw [set_of_mem hfield hkey, (field.reading.read_eq_error_iff hv).mpr hfaulty]
    rfl

/-- Setting an entry changes the field with its key, and no other. -/
theorem is_of_set (hv : v.Proper) (hset : layout.set record key v = .ok result) {field : Field ρ}
    (hfield : field ∈ layout.fields) :
    field.Is [(key, v)] (some (field.get record)) (field.get result) := by
  by_cases hknown : ∃ other ∈ layout.fields, other.key = key
  · obtain ⟨other, hother, hkey⟩ := hknown
    rw [set_of_mem hother hkey] at hset
    obtain ⟨a, hread, hput⟩ := Attempt.bind_eq_ok_iff.mp hset
    obtain rfl := Except.ok.inj hput
    by_cases hsame : field.key = key
    · obtain rfl := eq_of_key_eq hfield hother (hsame.trans hkey.symm)
      rw [Field.is_cons_self hkey, field.get_put]
      exact (field.reading.read_eq_ok_iff hv).mp hread
    · rw [Field.is_cons_of_ne hsame, Field.is_nil,
        layout.get_put_of_ne field hfield other hother (hkey ▸ hsame)]
  · push Not at hknown
    rw [set_of_unknown hknown] at hset
    obtain rfl := Except.ok.inj hset
    rw [Field.is_cons_of_ne (hknown field hfield), Field.is_nil]

/-! ## All entries -/

variable (layout) in
def setAll (record : ρ) (entries : Table) : Except Mismatch ρ :=
  entries.foldlM (fun record entry => layout.set record entry.1 entry.2) record

theorem setAll_cons :
    layout.setAll record (entry :: entries) =
      (layout.set record entry.1 entry.2).bind fun next => layout.setAll next entries := by
  rw [setAll, List.foldlM_cons]
  rfl

/-- Entries with different keys can be read in any order: each field is what its own key says, and
what it was before where the key is missing. -/
theorem setAll_eq_ok_iff (hentries : entries.Proper) :
    layout.setAll record entries = .ok result ↔
      ∀ field ∈ layout.fields, field.Is entries (some (field.get record)) (field.get result) := by
  induction entries generalizing record with
  | nil =>
      constructor
      · intro hset field _
        obtain rfl := Except.ok.inj hset
        rfl
      · intro hall
        exact congrArg Except.ok (layout.ext record result fun field hfield =>
          Option.some.inj (hall field hfield))
  | cons entry entries ih =>
      have hv := hentries.head
      rw [setAll_cons, Attempt.bind_eq_ok_iff]
      simp only [ih hentries.tail]
      constructor
      · rintro ⟨next, hset, hnext⟩ field hfield
        exact (Field.is_cons_iff hentries.distinct).mpr
          ⟨field.get next, is_of_set hv hset hfield, hnext field hfield⟩
      · intro hall
        -- the entry cannot fail: the field with its key says what the result has
        cases hset : layout.set record entry.1 entry.2 with
        | ok next =>
            refine ⟨next, rfl, ?_⟩
            intro field hfield
            obtain ⟨b, hentry, hrest⟩ := (Field.is_cons_iff hentries.distinct).mp (hall field hfield)
            rwa [(is_of_set hv hset hfield).unique hentries.single hentry]
        | error mismatch =>
            obtain ⟨field, hfield, hkey, hfaulty⟩ := (set_eq_error_iff hv).mp hset
            have hsaid := (Field.is_cons_self hkey).mp (hall field hfield)
            exact absurd hfaulty (hsaid.not_faulty hv mismatch)

theorem Fits.not_faulty (hv : entry.2.Proper) (hfits : layout.Fits entry) :
    ¬ layout.Faulty entry mismatch := by
  rintro ⟨field, hfield, hkey, hfaulty⟩
  obtain ⟨a, hsaid⟩ := hfits field hfield hkey
  exact hsaid.not_faulty hv mismatch hfaulty

theorem fits_of_set (hv : v.Proper) (hset : layout.set record key v = .ok result) :
    layout.Fits (key, v) := by
  intro field hfield hkey
  exact ⟨_, (Field.is_cons_self hkey).mp (is_of_set hv hset hfield)⟩

/-- The fault of the first entry that does not fit. -/
inductive FirstFault (layout : Layout ρ) : Table → Mismatch → Prop
  | here {entry : String × Value} {entries : Table} {mismatch : Mismatch}
      (hfaulty : layout.Faulty entry mismatch) : FirstFault layout (entry :: entries) mismatch
  | later {entry : String × Value} {entries : Table} {mismatch : Mismatch}
      (hfits : layout.Fits entry) (hrest : FirstFault layout entries mismatch) :
      FirstFault layout (entry :: entries) mismatch

theorem setAll_eq_error_iff (hentries : entries.Proper) :
    layout.setAll record entries = .error mismatch ↔ layout.FirstFault entries mismatch := by
  induction entries generalizing record with
  | nil =>
      constructor
      · intro hset
        contradiction
      · intro hfault
        cases hfault
  | cons entry entries ih =>
      rw [setAll_cons, Attempt.bind_eq_error_iff, set_eq_error_iff hentries.head]
      constructor
      · rintro (hfaulty | ⟨next, hset, hrest⟩)
        · exact .here hfaulty
        · exact .later (fits_of_set hentries.head hset) ((ih hentries.tail).mp hrest)
      · intro hfault
        cases hfault with
        | here hfaulty => exact Or.inl hfaulty
        | later hfits hrest =>
            right
            cases hset : layout.set record entry.1 entry.2 with
            | ok next => exact ⟨next, rfl, (ih hentries.tail).mpr hrest⟩
            | error other =>
                have hfaulty := (set_eq_error_iff hentries.head).mp hset
                exact absurd hfaulty (hfits.not_faulty hentries.head)

/-! ## The record that a table describes -/

variable (layout) in
/-- Every field is what its key says, or its fallback where the key is missing. -/
def Describes (table : Table) (record : ρ) : Prop :=
  ∀ field ∈ layout.fields, field.Is table field.fallback (field.get record)

variable (layout) in
/-- The keys of the fields without a fallback are there. -/
def Complete (table : Table) : Prop :=
  ∀ field ∈ layout.fields, field.fallback = none → (table.get? field.key).isSome

theorem is_fallback_iff {field : Field ρ} (hfield : field ∈ layout.fields) {a : field.type} :
    field.Is table field.fallback a ↔ field.Is table (some (field.get layout.initial)) a ∧
      (field.fallback = none → (table.get? field.key).isSome) := by
  cases hfallback : field.fallback with
  | none => simp [Field.is_none_iff (field.get layout.initial), and_comm]
  | some b => simp [layout.get_initial field hfield b hfallback]

theorem describes_iff (htable : table.Proper) :
    layout.Describes table record ↔
      layout.setAll layout.initial table = .ok record ∧ layout.Complete table := by
  rw [setAll_eq_ok_iff htable]
  constructor
  · intro hdescribes
    exact ⟨fun field hfield => ((is_fallback_iff hfield).mp (hdescribes field hfield)).1,
      fun field hfield => ((is_fallback_iff hfield).mp (hdescribes field hfield)).2⟩
  · rintro ⟨hall, hcomplete⟩ field hfield
    exact (is_fallback_iff hfield).mpr ⟨hall field hfield, hcomplete field hfield⟩

theorem FirstFault.exists_faulty (hfault : layout.FirstFault table mismatch) :
    ∃ entry ∈ table, layout.Faulty entry mismatch := by
  induction hfault with
  | here hfaulty => exact ⟨_, List.mem_cons_self, hfaulty⟩
  | later _ _ ih =>
      obtain ⟨entry, hentry, hfaulty⟩ := ih
      exact ⟨entry, List.mem_cons_of_mem _ hentry, hfaulty⟩

theorem FirstFault.ne_missingKey (hfault : layout.FirstFault table mismatch) (key : String) :
    mismatch ≠ .missingKey key := by
  obtain ⟨entry, _, field, _, _, hfaulty⟩ := hfault.exists_faulty
  exact field.reading.ne_missingKey hfaulty key

theorem exists_setAll_iff (record : ρ) (htable : table.Proper) :
    (∃ result, layout.setAll record table = .ok result) ↔
      ∀ entry ∈ table, layout.Fits entry := by
  constructor
  · rintro ⟨result, hset⟩ entry hentry field hfield hkey
    have his := (setAll_eq_ok_iff htable).mp hset field hfield
    have hget : table.get? field.key = some entry.2 := by
      rw [hkey]
      exact (Table.get?_eq_some_iff htable.distinct).mpr hentry
    rw [Field.Is, hget] at his
    exact ⟨_, his⟩
  · intro hfits
    cases hset : layout.setAll record table with
    | ok result => exact ⟨result, rfl⟩
    | error mismatch =>
        obtain ⟨entry, hentry, hfaulty⟩ := ((setAll_eq_error_iff htable).mp hset).exists_faulty
        exact absurd hfaulty ((hfits entry hentry).not_faulty (htable.values entry hentry))

/-- A table describes a record if every value fits its key and no key is missing that has to be
there. -/
theorem exists_describes_iff (htable : table.Proper) :
    (∃ record, layout.Describes table record) ↔
      (∀ entry ∈ table, layout.Fits entry) ∧ layout.Complete table := by
  simp only [describes_iff htable, exists_and_right, exists_setAll_iff layout.initial htable]

/-! ## Edits -/

/-- An edit of a table that does not change what it says about the fields. -/
inductive Edit (layout : Layout ρ) : Table → Table → Prop
  /-- The entries stand in another order. -/
  | reorder {first second : Table} (hperm : first.Perm second) : Edit layout first second
  /-- There is one more entry, with a key that no field has. -/
  | unknown {table : Table} {key : String} {v : Value}
      (hkey : ∀ field ∈ layout.fields, field.key ≠ key) : Edit layout table ((key, v) :: table)
  /-- There is one more entry, which says what the field is without it. -/
  | fallback {table : Table} {field : Field ρ} {v : Value} {a : field.type}
      (hfield : field ∈ layout.fields) (hfallback : field.fallback = some a)
      (hsaid : field.reading.Says v a) : Edit layout table ((field.key, v) :: table)

variable {first second : Table}

theorem Edit.is_iff (hedit : layout.Edit first second) (hfirst : first.Proper)
    (hsecond : second.Proper) {field : Field ρ} (hfield : field ∈ layout.fields)
    (a : field.type) :
    field.Is first field.fallback a ↔ field.Is second field.fallback a := by
  cases hedit with
  | reorder hperm =>
      have hget : first.get? field.key = second.get? field.key := by
        ext v
        rw [Table.get?_eq_some_iff hfirst.distinct, Table.get?_eq_some_iff hsecond.distinct,
          hperm.mem_iff]
      rw [Field.Is, Field.Is, hget]
  | unknown hkey => rw [Field.is_cons_of_ne (hkey field hfield)]
  | @fallback other v b hother hfallback hsaid =>
      by_cases hsame : field.key = other.key
      · obtain rfl := eq_of_key_eq hfield hother hsame
        have hmissing := (List.nodup_cons.mp hsecond.distinct).1
        rw [Field.is_cons_self rfl, Field.is_of_not_mem hmissing, hfallback, Option.some.injEq]
        constructor
        · rintro rfl
          exact hsaid
        · exact hsaid.unique hsecond.head
      · rw [Field.is_cons_of_ne hsame]

theorem Edit.describes_iff (hedit : layout.Edit first second) (hfirst : first.Proper)
    (hsecond : second.Proper) :
    layout.Describes first record ↔ layout.Describes second record :=
  forall₂_congr fun _ hfield => hedit.is_iff hfirst hsecond hfield _

end Layout

end TargetConfig
