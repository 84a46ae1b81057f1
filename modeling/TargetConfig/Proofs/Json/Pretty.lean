import TargetConfig.Proofs.Json.Scalars
import TargetConfig.Proofs.Text.Reading

/-! # JSON values read back as they were written

A value is written over several lines, with its parts on lines of their own. Reading the lines gives
the value again, if it has no floating-point numbers and is not nested deeper than the reader goes.
What is written for a part is understood whatever ends it: a comma, a line end, or nothing at all.
-/

namespace TargetConfig.Json

open Text

/-- Values without floating-point numbers that are nested at most so deep. -/
inductive Plain : Nat → Json → Prop
  | null {depth : Nat} : Plain depth .null
  | boolean {depth : Nat} (value : Bool) : Plain depth (.boolean value)
  | integer {depth : Nat} {value : Int} (hfits : FitsWord value) : Plain depth (.integer value)
  | string {depth : Nat} (value : String) : Plain depth (.string value)
  | array {depth : Nat} {items : List Json} (hitems : ∀ item ∈ items, Plain depth item) :
      Plain (depth + 1) (.array items)
  | object {depth : Nat} {entries : List (String × Json)}
      (hentries : ∀ entry ∈ entries, Plain depth entry.2) : Plain (depth + 1) (.object entries)

/-! ## Items on lines of their own -/

/-- A text that begins with neither white space nor a closing bracket. -/
def BeginsItem (s : List Char) : Prop :=
  ∃ c t, s = c :: t ∧ c ∉ [' ', '\t', '\n', '\r'] ∧ c ∉ [']', '\x7d']

theorem BeginsItem.append {s : List Char} (hs : BeginsItem s) (rest : List Char) :
    BeginsItem (s ++ rest) := by
  obtain ⟨c, t, heq, hc⟩ := hs
  exact ⟨c, t ++ rest, by rw [heq, List.cons_append], hc⟩

theorem skipSpace_of_not_mem {c : Char} (hc : c ∉ [' ', '\t', '\n', '\r']) (s : List Char) :
    skipSpace (c :: s) = c :: s := by
  simp only [List.mem_cons, List.not_mem_nil, or_false, not_or] at hc
  simp [skipSpace, hc]

theorem BeginsItem.skipSpace {s : List Char} (hs : BeginsItem s) : skipSpace s = s := by
  obtain ⟨c, t, heq, hc, _⟩ := hs
  rw [heq, skipSpace_of_not_mem hc]

theorem skipSpace_newLine (level : Nat) (s : List Char) :
    skipSpace ((newLine level).toList ++ s) = skipSpace s := by
  have hspaces : ∀ c ∈ (newLine level).toList,
      (c = ' ' || c = '\t' || c = '\n' || c = '\r') = true := by
    intro c hc
    simp only [newLine, String.toList_append, String.toList_ofList, List.mem_append,
      List.mem_replicate] at hc
    rcases hc with hline | ⟨_, hspace⟩
    · obtain rfl : c = '\n' := List.mem_singleton.mp hline
      rfl
    · simp [hspace]
  exact List.dropWhile_append_of_pos hspaces

theorem endsNumber_newLine (level : Nat) (s : List Char) :
    EndsNumber ((newLine level).toList ++ s) := by
  simp [EndsNumber, newLine]

theorem endsNumber_comma (s : List Char) : EndsNumber (',' :: s) := by
  simp [EndsNumber]

section Items

variable {α : Type} {item : Reader α} {write : α → List Char}

/-- Items on lines of their own, with a comma after each but the last. -/
def itemLines (write : α → List Char) (level : Nat) : List α → List Char
  | [] => []
  | [a] => (newLine level).toList ++ write a
  | a :: next :: items =>
    (newLine level).toList ++ write a ++ ',' :: itemLines write level (next :: items)

/-- What is written for an item is read back in front of anything that ends a number. -/
structure ReadsBack (item : Reader α) (write : α → List Char) (a : α) : Prop where
  begins : BeginsItem (write a)
  reads (rest : List Char) : EndsNumber rest → item (write a ++ rest) = some (a, rest)

/-- The lines of items begin with the first of them, after white space. -/
theorem beginsItem_itemLines {a : α} (ha : BeginsItem (write a)) (level : Nat) (items : List α)
    (rest : List Char) :
    BeginsItem (skipSpace (itemLines write level (a :: items) ++ rest)) := by
  have hlines : ∃ tail, itemLines write level (a :: items) ++ rest =
      (newLine level).toList ++ (write a ++ tail) := by
    cases items with
    | nil => exact ⟨rest, by rw [itemLines, List.append_assoc]⟩
    | cons next items => exact ⟨_, by rw [itemLines, List.append_assoc, List.append_assoc]⟩
  obtain ⟨tail, heq⟩ := hlines
  rw [heq, skipSpace_newLine, (ha.append tail).skipSpace]
  exact ha.append tail

variable {close : Char} {tail rest : List Char}

/-- The lines of items are read up to the closing bracket after them. -/
theorem items_itemLines (hclose : close ∈ [']', '\x7d']) (level : Nat) {a : α} {items : List α}
    (hread : ∀ b ∈ a :: items, ReadsBack item write b) (hends : EndsNumber tail)
    (htail : skipSpace tail = close :: rest) :
    Reader.items skipSpace close false item (itemLines write level (a :: items) ++ tail) =
      some (a :: items, rest) := by
  induction items generalizing a with
  | nil =>
      have ha := hread a List.mem_cons_self
      refine Reader.items_last ?_ htail
      rw [itemLines, List.append_assoc, skipSpace_newLine, (ha.begins.append tail).skipSpace,
        ha.reads tail hends]
  | cons next items ih =>
      have ha := hread a List.mem_cons_self
      have hnext := hread next (List.mem_cons_of_mem a List.mem_cons_self)
      let after := itemLines write level (next :: items) ++ tail
      have hlines : itemLines write level (a :: next :: items) ++ tail =
          (newLine level).toList ++ (write a ++ ',' :: after) := by
        simp [itemLines, after]
      have hitem : item (skipSpace (itemLines write level (a :: next :: items) ++ tail)) =
          some (a, ',' :: after) := by
        rw [hlines, skipSpace_newLine, (ha.begins.append _).skipSpace,
          ha.reads _ (endsNumber_comma after)]
      have hlength : after.length <
          (itemLines write level (a :: next :: items) ++ tail).length := by
        rw [hlines]
        simp only [List.length_append, List.length_cons]
        omega
      -- the next item follows the comma, and it does not begin with the closing bracket
      obtain ⟨c, t, hskip, _, hc⟩ := beginsItem_itemLines hnext.begins level items tail
      rw [Reader.items_next (ne_of_mem_of_not_mem hclose (by decide)) hitem
          (skipSpace_of_not_mem (by decide) after) hskip (ne_of_mem_of_not_mem hclose hc).symm
          hlength,
        ih fun b hb => hread b (List.mem_cons_of_mem a hb)]
      rfl

theorem list_itemLines (hclose : close ∈ [']', '\x7d']) (level : Nat) {a : α} {items : List α}
    (hread : ∀ b ∈ a :: items, ReadsBack item write b) (hends : EndsNumber tail)
    (htail : skipSpace tail = close :: rest) :
    Reader.list skipSpace close false item (itemLines write level (a :: items) ++ tail) =
      some (a :: items, rest) := by
  have ha := hread a List.mem_cons_self
  obtain ⟨c, t, hskip, _, hc⟩ := beginsItem_itemLines ha.begins level items tail
  rw [Reader.list_of_item hskip (ne_of_mem_of_not_mem hclose hc).symm,
    items_itemLines hclose level hread hends htail]

end Items

/-! ## Values -/

theorem toList_prettyItems (level : Nat) (items : List Json) :
    (prettyItems level items).toList =
      itemLines (fun value => (pretty level value).toList) level items := by
  induction items with
  | nil => rfl
  | cons item items ih =>
      cases items with
      | nil => simp [prettyItems, itemLines]
      | cons next items =>
          rw [prettyItems, itemLines, ← ih]
          simp

/-- An entry without the line it stands on. -/
def entryText (level : Nat) (entry : String × Json) : List Char :=
  (renderString entry.1).toList ++ ':' :: ' ' :: (pretty level entry.2).toList

theorem toList_prettyEntries (level : Nat) (entries : List (String × Json)) :
    (prettyEntries level entries).toList = itemLines (entryText level) level entries := by
  induction entries with
  | nil => rfl
  | cons entry entries ih =>
      cases entries with
      | nil => simp [prettyEntries, itemLines, entryText]
      | cons next entries =>
          rw [prettyEntries, itemLines, ← ih]
          simp [entryText]

theorem beginsItem_renderString (s : String) : BeginsItem (renderString s).toList :=
  ⟨'"', s.toList.flatMap escapeChar ++ ['"'], by simp [renderString], by decide⟩

theorem readsBack_entryText {depth level : Nat} {entry : String × Json}
    (hvalue : ReadsBack (readValue depth) (fun value => (pretty level value).toList) entry.2) :
    ReadsBack (readEntry (readValue depth)) (entryText level) entry where
  begins := (beginsItem_renderString entry.1).append _
  reads rest hrest := by
    have hkey := beginsItem_renderString entry.1
    have hspace : skipSpace (' ' :: ((pretty level entry.2).toList ++ rest)) =
        (pretty level entry.2).toList ++ rest :=
      (hvalue.begins.append rest).skipSpace
    rw [readEntry, entryText, List.append_assoc, (hkey.append _).skipSpace,
      readString_renderString]
    simp only [List.cons_append]
    rw [skipSpace_of_not_mem (by decide)]
    simp [hspace, hvalue.reads rest hrest]

theorem readsBack_of_eq_cons {depth level : Nat} {value : Json} {c : Char} {t : List Char}
    (hwritten : (pretty level value).toList = c :: t)
    (hc : c ∉ [' ', '\t', '\n', '\r'] ∧ c ∉ [']', '\x7d'])
    (hread : ∀ rest, EndsNumber rest → readValue depth (c :: (t ++ rest)) = some (value, rest)) :
    ReadsBack (readValue depth) (fun value => (pretty level value).toList) value where
  begins := ⟨c, t, hwritten, hc⟩
  reads rest hrest := by
    rw [hwritten, List.cons_append, hread rest hrest]

theorem readValue_quote (depth : Nat) (s : List Char) :
    readValue depth ('"' :: s) = (readString ('"' :: s)).map fun r => (string r.1, r.2) := by
  cases depth <;> rw [readValue]

theorem readValue_bracket (depth : Nat) (s : List Char) :
    readValue (depth + 1) ('[' :: s) =
      (Reader.list skipSpace ']' false (readValue depth) s).map fun r => (array r.1, r.2) := by
  rw [readValue]

theorem readValue_brace (depth : Nat) (s : List Char) :
    readValue (depth + 1) ('\x7b' :: s) =
      (Reader.list skipSpace '\x7d' false (readEntry (readValue depth)) s).map
        fun r => (object r.1, r.2) := by
  rw [readValue]

theorem readsBack_array {depth level : Nat} {items : List Json}
    (hitems : ∀ item ∈ items,
      ReadsBack (readValue depth) (fun value => (pretty (level + 1) value).toList) item) :
    ReadsBack (readValue (depth + 1)) (fun value => (pretty level value).toList)
      (.array items) := by
  cases items with
  | nil =>
      have hwritten : (pretty level (.array [])).toList = ['[', ']'] := by
        simp [pretty, renderScalar]
      refine readsBack_of_eq_cons hwritten (by decide) ?_
      intro rest _
      rw [readValue_bracket, List.singleton_append,
        Reader.list_of_close (skipSpace_of_not_mem (by decide) rest)]
      rfl
  | cons item items =>
      have hwritten : (pretty level (.array (item :: items))).toList =
          '[' :: (itemLines (fun value => (pretty (level + 1) value).toList) (level + 1)
            (item :: items) ++ ((newLine level).toList ++ [']'])) := by
        rw [← toList_prettyItems]
        simp [pretty]
      refine readsBack_of_eq_cons hwritten (by decide) ?_
      intro rest _
      have hclose : ']' ∈ [']', '\x7d'] := by decide
      rw [readValue_bracket, List.append_assoc, List.append_assoc, List.singleton_append,
        list_itemLines hclose (level + 1) hitems (endsNumber_newLine level _)]
      · rfl
      · rw [skipSpace_newLine, skipSpace_of_not_mem (by decide)]

theorem readsBack_object {depth level : Nat} {entries : List (String × Json)}
    (hentries : ∀ entry ∈ entries,
      ReadsBack (readValue depth) (fun value => (pretty (level + 1) value).toList) entry.2) :
    ReadsBack (readValue (depth + 1)) (fun value => (pretty level value).toList)
      (.object entries) := by
  cases entries with
  | nil =>
      have hwritten : (pretty level (.object [])).toList = ['\x7b', '\x7d'] := by
        simp [pretty, renderScalar]
      refine readsBack_of_eq_cons hwritten (by decide) ?_
      intro rest _
      rw [readValue_brace, List.singleton_append,
        Reader.list_of_close (skipSpace_of_not_mem (by decide) rest)]
      rfl
  | cons entry entries =>
      have hwritten : (pretty level (.object (entry :: entries))).toList =
          '\x7b' :: (itemLines (entryText (level + 1)) (level + 1) (entry :: entries) ++
            ((newLine level).toList ++ ['\x7d'])) := by
        rw [← toList_prettyEntries]
        simp [pretty]
      refine readsBack_of_eq_cons hwritten (by decide) ?_
      intro rest _
      have hclose : '\x7d' ∈ [']', '\x7d'] := by decide
      have hread : ∀ entry' ∈ entry :: entries,
          ReadsBack (readEntry (readValue depth)) (entryText (level + 1)) entry' :=
        fun entry' hentry => readsBack_entryText (hentries entry' hentry)
      rw [readValue_brace, List.append_assoc, List.append_assoc, List.singleton_append,
        list_itemLines hclose (level + 1) hread (endsNumber_newLine level _)]
      · rfl
      · rw [skipSpace_newLine, skipSpace_of_not_mem (by decide)]

/-- Values are read back as they were written, at whatever level they stand. -/
theorem Plain.readsBack {depth : Nat} {value : Json} (hplain : Plain depth value) (level : Nat) :
    ReadsBack (readValue depth) (fun value => (pretty level value).toList) value := by
  induction hplain generalizing level with
  | null =>
      have hwritten : (pretty level .null).toList = ['n', 'u', 'l', 'l'] := by
        simp [pretty, renderScalar]
      refine readsBack_of_eq_cons hwritten (by decide) ?_
      intro rest _
      unfold readValue
      rfl
  | boolean value =>
      cases value with
      | true =>
          have hwritten : (pretty level (.boolean true)).toList = ['t', 'r', 'u', 'e'] := by
            simp [pretty, renderScalar]
          refine readsBack_of_eq_cons hwritten (by decide) ?_
          intro rest _
          unfold readValue
          rfl
      | false =>
          have hwritten : (pretty level (.boolean false)).toList = ['f', 'a', 'l', 's', 'e'] := by
            simp [pretty, renderScalar]
          refine readsBack_of_eq_cons hwritten (by decide) ?_
          intro rest _
          unfold readValue
          rfl
  | @integer depth value hfits =>
      obtain ⟨c, t, hcons, hc⟩ := toString_eq_cons value
      have hwritten : (pretty level (.integer value)).toList = c :: t := by
        rw [← hcons]
        simp [pretty, renderScalar]
      have hfirst : c ∉ [' ', '\t', '\n', '\r'] ∧ c ∉ [']', '\x7d'] :=
        ⟨not_mem_of_digit_or_sign hc (by simp), not_mem_of_digit_or_sign hc (by simp)⟩
      refine readsBack_of_eq_cons hwritten hfirst ?_
      intro rest hrest
      rw [readValue_number hc, ← List.cons_append, ← hcons, readNumber_toString hfits hrest]
  | string value =>
      have hwritten : (pretty level (.string value)).toList =
          '"' :: (value.toList.flatMap escapeChar ++ ['"']) := by
        simp [pretty, renderScalar, renderString]
      refine readsBack_of_eq_cons hwritten (by decide) ?_
      intro rest _
      rw [readValue_quote, List.append_assoc, List.singleton_append, readString,
        stringBody_escaped]
      simp
  | array _ ih => exact readsBack_array fun item hitem => ih item hitem (level + 1)
  | object _ ih => exact readsBack_object fun entry hentry => ih entry hentry (level + 1)

/-- Values nested no deeper than the reader goes are read back from their lines. -/
theorem parse_pretty {value : Json} (hplain : Plain 127 value) :
    parse (pretty 0 value ++ "\n") = some value := by
  have hread := hplain.readsBack 0
  rw [parse, String.toList_append, (hread.begins.append _).skipSpace,
    hread.reads _ (by simp [EndsNumber])]
  rfl

theorem eq_of_pretty_eq {first second : Json} (hfirst : Plain 127 first)
    (hsecond : Plain 127 second) (heq : pretty 0 first ++ "\n" = pretty 0 second ++ "\n") :
    first = second := by
  have hread := parse_pretty hfirst
  rw [heq, parse_pretty hsecond] at hread
  exact (Option.some.inj hread).symm

end TargetConfig.Json
