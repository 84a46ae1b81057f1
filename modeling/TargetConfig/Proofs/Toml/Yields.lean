import TargetConfig.Proofs.Toml.Proper

/-! # No table of a document has a key twice

Whatever a reader takes from a text is shown from what its parts take. A value is read from a text
only as a proper one: a scalar has no keys, the items of an array are proper, and the entries of an
inline table are put together like those of a document.
-/

namespace TargetConfig

/-! ## What readers give -/

namespace Text.Reader

variable {α : Type}

/-- Whatever a reader takes from a text has a property. -/
def Yields (reader : Reader α) (P : α → Prop) : Prop :=
  ∀ s a rest, reader s = some (a, rest) → P a

theorem fst_of_map {β : Type} {o : Option β} {f : β → α × List Char} {a : α} {rest : List Char}
    (hmap : o.map f = some (a, rest)) : ∃ b, o = some b ∧ (f b).1 = a := by
  obtain ⟨b, hb, hpair⟩ := Option.map_eq_some_iff.mp hmap
  exact ⟨b, hb, congrArg Prod.fst hpair⟩

theorem fst_of_some {a b : α} {s rest : List Char} (hsome : some (b, s) = some (a, rest)) : b = a :=
  congrArg Prod.fst (Option.some.inj hsome)

theorem Yields.untilEnd {item : Reader α} {P : α → Prop} (hitem : Yields item P) {s : List Char}
    {all : List α} (hread : untilEnd item s = some all) : ∀ a ∈ all, P a := by
  fun_induction Reader.untilEnd item s generalizing all with
  | case1 => simp_all
  | case2 | case4 => contradiction
  | case3 s _ a rest hfirst _ ih =>
      obtain ⟨others, hothers, rfl⟩ := Option.map_eq_some_iff.mp hread
      exact List.forall_mem_cons.mpr ⟨hitem s a rest hfirst, ih hothers⟩

theorem Yields.items {skip : List Char → List Char} {close : Char} {trailing : Bool}
    {item : Reader α} {P : α → Prop} (hitem : Yields item P) {s rest : List Char} {all : List α}
    (hread : items skip close trailing item s = some (all, rest)) : ∀ a ∈ all, P a := by
  fun_induction Reader.items skip close trailing item s generalizing all rest with
  | case3 s a after hfirst | case5 s a after hfirst =>
      obtain rfl := fst_of_some hread
      exact List.forall_mem_singleton.mpr (hitem _ a after hfirst)
  | case6 s a after hfirst next _ _ _ _ _ _ _ ih =>
      obtain ⟨others, hothers, rfl⟩ := fst_of_map hread
      exact List.forall_mem_cons.mpr ⟨hitem _ a after hfirst, ih hothers⟩
  | case1 | case2 | case4 | case7 | case8 => contradiction

theorem Yields.list {skip : List Char → List Char} {close : Char} {trailing : Bool}
    {item : Reader α} {P : α → Prop} (hitem : Yields item P) :
    Yields (Reader.list skip close trailing item) fun all => ∀ a ∈ all, P a := by
  intro s all rest hread
  unfold Reader.list at hread
  split at hread
  next => contradiction
  next =>
    split at hread
    next =>
      obtain rfl := fst_of_some hread
      simp
    next => exact hitem.items hread

end Text.Reader

namespace Toml

open Text Reader

/-! ## Reading proper values -/

theorem proper_of_integer? {n : Int} {value : Value} (hvalue : integer? n = some value) :
    value.Proper := by
  unfold integer? at hvalue
  split at hvalue
  next =>
    obtain rfl := Option.some.inj hvalue
    exact .integer n
  next => contradiction

theorem proper_of_float? {negative : Bool} {ds : List Char} {exponent : Int} {value : Value}
    (hvalue : float? negative ds exponent = some value) : value.Proper := by
  unfold float? at hvalue
  dsimp only at hvalue
  split at hvalue
  next => contradiction
  next =>
    obtain rfl := Option.some.inj hvalue
    exact .float _

theorem yields_readBased (base : Nat) (isDigit : Char → Bool) :
    Yields (readBased base isDigit) Value.Proper := by
  intro s value rest hread
  obtain ⟨digits, _, hvalue⟩ := Option.bind_eq_some_iff.mp hread
  obtain ⟨stated, hstated, rfl⟩ := fst_of_map hvalue
  exact proper_of_integer? hstated

theorem yields_readInteger : Yields readInteger Value.Proper := by
  intro s value rest hread
  unfold readInteger at hread
  split at hread
  next => exact yields_readBased _ _ _ _ _ hread
  next => exact yields_readBased _ _ _ _ _ hread
  next => exact yields_readBased _ _ _ _ _ hread
  next =>
    obtain ⟨digits, _, hvalue⟩ := Option.bind_eq_some_iff.mp hread
    obtain ⟨stated, hstated, rfl⟩ := fst_of_map hvalue
    exact proper_of_integer? hstated

theorem yields_readFloat : Yields readFloat Value.Proper := by
  intro s value rest hread
  unfold readFloat at hread
  dsimp only at hread
  split at hread
  next =>
    obtain rfl := fst_of_some hread
    exact .float _
  next =>
    obtain rfl := fst_of_some hread
    exact .float _
  next =>
    obtain ⟨whole, _, hread⟩ := Option.bind_eq_some_iff.mp hread
    -- a fraction, with or without an exponent, or an exponent alone
    split at hread
    next =>
      obtain ⟨fraction, _, hread⟩ := Option.bind_eq_some_iff.mp hread
      obtain ⟨stated, hstated, rfl⟩ := fst_of_map hread
      exact proper_of_float? hstated
    next =>
      obtain ⟨exponent, _, hread⟩ := Option.bind_eq_some_iff.mp hread
      obtain ⟨stated, hstated, rfl⟩ := fst_of_map hread
      exact proper_of_float? hstated

theorem yields_readDatetime : Yields readDatetime Value.Proper := by
  intro s value rest hread
  unfold readDatetime at hread
  split at hread
  next date after _ =>
    obtain rfl := fst_of_some hread
    exact .datetime _
  next =>
    obtain ⟨time, _, rfl⟩ := fst_of_map hread
    exact .datetime _

theorem yields_readScalar : Yields readScalar Value.Proper := by
  intro s value rest hread
  unfold readScalar at hread
  split at hread
  next =>
    obtain rfl := fst_of_some hread
    exact .boolean true
  next =>
    obtain rfl := fst_of_some hread
    exact .boolean false
  next =>
    rcases Option.or_eq_some_iff.mp hread with hdatetime | ⟨_, hnumber⟩
    · exact yields_readDatetime _ _ _ hdatetime
    · rcases Option.or_eq_some_iff.mp hnumber with hfloat | ⟨_, hinteger⟩
      · exact yields_readFloat _ _ _ hfloat
      · exact yields_readInteger _ _ _ hinteger

theorem yields_readEntry {value : Reader Value} (hvalue : Yields value Value.Proper) :
    Yields (readEntry value) fun entry => entry.value.Proper := by
  intro s entry rest hread
  unfold readEntry at hread
  split at hread
  next =>
    obtain ⟨read, hvalueRead, rfl⟩ := fst_of_map hread
    exact hvalue _ _ _ hvalueRead
  next => contradiction

theorem yields_readQuoted : Yields (fun s => (readString s).map fun r =>
    (Value.string (String.ofList r.1), r.2)) Value.Proper := by
  intro s value rest hread
  obtain ⟨text, _, rfl⟩ := fst_of_map hread
  exact .string _

/-- An array is proper because its items are, and an inline table because its entries are put
together like those of a document. -/
theorem yields_readValue (depth : Nat) : Yields (readValue depth) Value.Proper := by
  induction depth with
  | zero =>
      intro s value rest hread
      unfold readValue at hread
      split at hread
      next => contradiction
      next =>
        split_ifs at hread with hquote harray htable
        · exact yields_readQuoted _ _ _ hread
        · exact yields_readScalar _ _ _ hread
  | succ depth ih =>
      intro s value rest hread
      unfold readValue at hread
      split at hread
      next => contradiction
      next =>
        split_ifs at hread with hquote harray htable
        · exact yields_readQuoted _ _ _ hread
        · obtain ⟨items, hitems, rfl⟩ := fst_of_map hread
          exact .array (ih.list _ _ _ hitems)
        · obtain ⟨stated, hstated, hread⟩ := Option.bind_eq_some_iff.mp hread
          obtain ⟨entries, hentries, rfl⟩ := fst_of_map hread
          have hproper := Table.keeps_putAll ((yields_readEntry ih).list _ _ _ hstated)
          exact Value.proper_table_iff.mpr (hproper Table.Proper.nil hentries)
        · exact yields_readScalar _ _ _ hread

theorem yields_readHeader (isElement : Bool) : Yields (readHeader isElement) Statement.Proper := by
  intro s statement rest hread
  unfold readHeader at hread
  split at hread
  next =>
    obtain rfl := fst_of_some hread
    exact trivial
  next =>
    obtain rfl := fst_of_some hread
    exact trivial
  next => contradiction

theorem yields_readStatement : Yields readStatement Statement.Proper := by
  intro s statement rest hread
  unfold readStatement at hread
  split at hread
  next => exact yields_readHeader true _ _ _ hread
  next => exact yields_readHeader false _ _ _ hread
  next =>
    obtain ⟨read, hentry, rfl⟩ := fst_of_map hread
    exact yields_readEntry (yields_readValue nestingLimit) _ _ _ hentry

theorem yields_readLine :
    Yields readLine fun line => ∀ statement ∈ line, statement.Proper := by
  intro s line rest hread
  unfold readLine at hread
  dsimp only at hread
  split at hread
  next =>
    obtain ⟨_, _, rfl⟩ := fst_of_map hread
    simp
  next =>
    obtain ⟨stated, hstated, hread⟩ := Option.bind_eq_some_iff.mp hread
    obtain ⟨_, _, rfl⟩ := fst_of_map hread
    intro statement hstatement
    obtain rfl := Option.mem_some.mp hstatement
    exact yields_readStatement _ _ _ hstated

theorem proper_of_statements? {s : List Char} {statements : List Statement}
    (hstatements : Document.statements? s = some statements) :
    ∀ statement ∈ statements, statement.Proper := by
  obtain ⟨lines, hlines, rfl⟩ := Option.map_eq_some_iff.mp hstatements
  intro statement hstatement
  obtain ⟨line, hline, hsome⟩ := List.mem_filterMap.mp hstatement
  exact yields_readLine.untilEnd hlines line hline statement hsome

/-- No table of a document has a key twice. -/
theorem Document.proper_of_parse {text : String} {table : Table}
    (hparse : Document.parse text = some table) : table.Proper := by
  obtain ⟨statements, hstatements, htable⟩ := Option.bind_eq_some_iff.mp hparse
  exact Table.proper_ofStatements (proper_of_statements? hstatements) htable

end Toml

end TargetConfig
