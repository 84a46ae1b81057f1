import Mathlib.Data.List.TakeDrop
import TargetConfig.Proofs.Toml.Values

/-! # Written lines read back as statements

A document is written line by line, and every line is read on its own. So a text that is read as
certain statements, whatever lines follow, can be put together from shorter ones.
-/

namespace TargetConfig.Toml

open Text

/-! ## Keys -/

/-- A key that needs no quotes. -/
def IsBareKey (key : String) : Prop :=
  key.toList ≠ [] ∧ ∀ c ∈ key.toList, isBareKeyChar c

instance (key : String) : Decidable (IsBareKey key) :=
  decidable_of_iff ((!key.toList.isEmpty && key.toList.all isBareKeyChar) = true)
    (by simp [IsBareKey])

theorem IsBareKey.eq_cons {key : String} (hkey : IsBareKey key) :
    ∃ c s, key.toList = c :: s ∧ isBareKeyChar c := by
  obtain ⟨hne, hchars⟩ := hkey
  cases hlist : key.toList with
  | nil => exact absurd hlist hne
  | cons c s => exact ⟨c, s, rfl, hchars c (by simp [hlist])⟩

theorem not_mem_of_isBareKeyChar {c : Char} (hc : isBareKeyChar c) :
    c ∉ [' ', '\t', '#', '\n', '\r', '"', '\'', '['] := by
  intro hmem
  simp only [List.mem_cons, List.not_mem_nil, or_false] at hmem
  rcases hmem with rfl | rfl | rfl | rfl | rfl | rfl | rfl | rfl <;> exact absurd hc (by decide)

theorem skipSpace_of_not_space {c : Char} (hc : isSpace c = false) (s : List Char) :
    skipSpace (c :: s) = c :: s := by
  simp [skipSpace, hc]

theorem skipSpace_blank (s : List Char) : skipSpace (' ' :: s) = skipSpace s := by
  simp [skipSpace, isSpace]

/-- A key without quotes ends in front of the first character that it cannot hold. -/
theorem readKeyPart_append {key : String} (hkey : IsBareKey key) {c : Char}
    (hc : isBareKeyChar c = false) (rest : List Char) :
    readKeyPart (key.toList ++ c :: rest) = some (key, c :: rest) := by
  obtain ⟨d, s, hcons, hd⟩ := hkey.eq_cons
  have hquotes : (decide (d = '"') || decide (d = '\'')) = false := by
    have hmem := not_mem_of_isBareKeyChar hd
    simp_all
  have hspan : (key.toList ++ c :: rest).span isBareKeyChar = (key.toList, c :: rest) := by
    rw [List.span_eq_takeWhile_dropWhile, List.takeWhile_append_of_pos hkey.2,
      List.dropWhile_append_of_pos hkey.2]
    simp [hc]
  rw [hcons, List.cons_append] at hspan ⊢
  rw [readKeyPart]
  simp only [hquotes, Bool.false_eq_true, if_false, hd, if_true, hspan]
  rw [← hcons, String.ofList_toList]

theorem IsBareKey.skipSpace_append {key : String} (hkey : IsBareKey key) (rest : List Char) :
    skipSpace (key.toList ++ rest) = key.toList ++ rest := by
  obtain ⟨c, s, hcons, hc⟩ := hkey.eq_cons
  have hspace : isSpace c = false := by
    have hmem := not_mem_of_isBareKeyChar hc
    simp_all [isSpace]
  rw [hcons, List.cons_append, skipSpace_of_not_space hspace]

/-- A key without dots is a path of its own. -/
theorem readPath_append {key : String} (hkey : IsBareKey key) {c : Char}
    (hc : isBareKeyChar c = false) {rest : List Char}
    (hdot : ∀ t, skipSpace (c :: rest) ≠ '.' :: t) :
    readPath (key.toList ++ c :: rest) = some (⟨[], key⟩, skipSpace (c :: rest)) := by
  have hparts : readKeyParts nestingLimit (key.toList ++ c :: rest) =
      some ([key], skipSpace (c :: rest)) := by
    rw [nestingLimit, readKeyParts, hkey.skipSpace_append, readKeyPart_append hkey hc]
    dsimp only
    split
    next t ht => exact absurd ht (hdot t)
    next => rfl
  rw [readPath, hparts]
  rfl

/-! ## Lines -/

/-- A text without leading blanks that is read as a value in front of a line end. -/
structure WrittenAs (text : List Char) (value : Value) : Prop where
  opening : ∃ c s, text = c :: s ∧ isSpace c = false
  read : ∀ rest, readValue nestingLimit (text ++ '\n' :: rest) = some (value, '\n' :: rest)

theorem writtenAs_string (text : String) :
    WrittenAs (writeString text.toList) (.string text) where
  opening := by
    obtain ⟨c, s, hcons, hquote⟩ := writeString_eq_cons text.toList
    exact ⟨c, s, hcons, by rcases hquote with rfl | rfl <;> decide⟩
  read rest := readValue_writeString _ text (afterString_cons (by decide) (by decide) _)

theorem writtenAs_boolean (value : Bool) : WrittenAs (writeBoolean value) (.boolean value) where
  opening := by cases value <;> exact ⟨_, _, rfl, by decide⟩
  read rest := readValue_writeBoolean _ value _

theorem writtenAs_texts (texts : List String) :
    WrittenAs (writeTexts texts) (.array (texts.map .string)) where
  opening := by
    rcases texts with _ | ⟨text, _ | ⟨next, texts⟩⟩ <;> exact ⟨_, _, rfl, by decide⟩
  read rest := readValue_writeTexts _ texts _

theorem readLineRest_lineEnd (rest : List Char) : readLineRest ('\n' :: rest) = some rest := by
  rw [readLineRest, skipSpace_of_not_space (by decide)]
  rfl

/-- A line that starts with a statement and ends directly after it. -/
theorem readLine_of_readStatement {c : Char} {s rest : List Char} {statement : Statement}
    (hspace : isSpace c = false) (hrest : isLineRest (c :: s) = false)
    (hstatement : readStatement (c :: s) = some (statement, '\n' :: rest)) :
    readLine (c :: s) = some (some statement, rest) := by
  rw [readLine, skipSpace_of_not_space hspace]
  simp only [hrest, Bool.false_eq_true, if_false, hstatement, Option.bind_some,
    readLineRest_lineEnd, Option.map_some]

/-- An entry with a key that needs no quotes. -/
def plainEntry (entry : String × Value) : Entry := ⟨⟨[], entry.1⟩, entry.2⟩

theorem readLine_writeLine {key : String} (hkey : IsBareKey key) {text : List Char} {value : Value}
    (hvalue : WrittenAs text value) (rest : List Char) :
    readLine (writeLine key text ++ rest) =
      some (some (.entry (plainEntry (key, value))), rest) := by
  have hline : writeLine key text ++ rest =
      key.toList ++ ' ' :: ('=' :: ' ' :: (text ++ '\n' :: rest)) := by
    simp [writeLine]
  have hequals : skipSpace (' ' :: '=' :: ' ' :: (text ++ '\n' :: rest)) =
      '=' :: ' ' :: (text ++ '\n' :: rest) := by
    rw [skipSpace_blank, skipSpace_of_not_space (by decide)]
  have hblank : skipSpace (' ' :: (text ++ '\n' :: rest)) = text ++ '\n' :: rest := by
    obtain ⟨c, s, rfl, hc⟩ := hvalue.opening
    rw [skipSpace_blank, List.cons_append, skipSpace_of_not_space hc]
  have hpath : readPath (key.toList ++ ' ' :: ('=' :: ' ' :: (text ++ '\n' :: rest))) =
      some (⟨[], key⟩, skipSpace (' ' :: '=' :: ' ' :: (text ++ '\n' :: rest))) := by
    apply readPath_append hkey (by decide)
    simp [hequals]
  have hentry : readEntry (readValue nestingLimit)
      (key.toList ++ ' ' :: ('=' :: ' ' :: (text ++ '\n' :: rest))) =
        some (plainEntry (key, value), '\n' :: rest) := by
    rw [readEntry, hpath, hequals]
    simp only [hblank, hvalue.read, Option.map_some, plainEntry]
  obtain ⟨c, s, hcons, hc⟩ := hkey.eq_cons
  have hmem := not_mem_of_isBareKeyChar hc
  rw [hline]
  rw [hcons, List.cons_append] at hentry ⊢
  apply readLine_of_readStatement
  · simp_all [isSpace]
  · simp_all [isLineRest]
  · -- no key starts with a bracket, so this is no header
    rw [readStatement, hentry] <;> simp_all

theorem readLine_blank (rest : List Char) : readLine ('\n' :: rest) = some (none, rest) := by
  rw [readLine, skipSpace_of_not_space (by decide)]
  simp [isLineRest, readLineRest_lineEnd]

theorem readLine_header {key : String} (hkey : IsBareKey key) (rest : List Char) :
    readLine ('[' :: (key.toList ++ ']' :: '\n' :: rest)) =
      some (some (.table ⟨[], key⟩), rest) := by
  have hbracket : skipSpace (']' :: '\n' :: rest) = ']' :: '\n' :: rest :=
    skipSpace_of_not_space (by decide) _
  have hpath : readPath (key.toList ++ ']' :: '\n' :: rest) =
      some (⟨[], key⟩, skipSpace (']' :: '\n' :: rest)) := by
    apply readPath_append hkey (by decide)
    simp [hbracket]
  have hheader : readHeader false (key.toList ++ ']' :: '\n' :: rest) =
      some (.table ⟨[], key⟩, '\n' :: rest) := by
    unfold readHeader
    rw [hpath, hbracket]
    rfl
  obtain ⟨c, s, hcons, hc⟩ := hkey.eq_cons
  have hmem := not_mem_of_isBareKeyChar hc
  apply readLine_of_readStatement (by decide) (by rfl)
  -- one bracket, not two, because no key starts with a bracket
  rw [hcons, List.cons_append] at hheader ⊢
  rw [readStatement, hheader]
  simp_all

/-! ## Texts of several lines -/

/-- A text is read as statements, whatever lines follow it. -/
def StatedAs (text : List Char) (statements : List Statement) : Prop :=
  ∀ rest, Document.statements? (text ++ rest) =
    (Document.statements? rest).map (statements ++ ·)

theorem statements?_of_readLine {s rest : List Char} {line : Option Statement}
    (hread : readLine s = some (line, rest)) (hlength : rest.length < s.length) :
    Document.statements? s = (Document.statements? rest).map (line.toList ++ ·) := by
  have hne : s.isEmpty = false := by
    cases s with
    | nil => simp at hlength
    | cons c s => rfl
  -- the loop goes on only because the line took something
  unfold Document.statements?
  rw [Reader.untilEnd, hne, hread]
  simp only [Bool.false_eq_true, if_false, hlength, if_true]
  cases Reader.untilEnd readLine rest with
  | none => rfl
  | some lines => cases line <;> simp

namespace StatedAs

theorem of_readLine {text : List Char} {line : Option Statement} (hne : text ≠ [])
    (hread : ∀ rest, readLine (text ++ rest) = some (line, rest)) : StatedAs text line.toList := by
  intro rest
  apply statements?_of_readLine (hread rest)
  have := List.length_pos_iff.mpr hne
  rw [List.length_append]
  omega

theorem nil : StatedAs [] [] := by
  intro rest
  simp

theorem append {first second : List Char} {before after : List Statement}
    (hfirst : StatedAs first before) (hsecond : StatedAs second after) :
    StatedAs (first ++ second) (before ++ after) := by
  intro rest
  rw [List.append_assoc, hfirst, hsecond]
  simp [Function.comp_def]

theorem blank : StatedAs ['\n'] [] :=
  @of_readLine ['\n'] none (by simp) readLine_blank

theorem entry {key : String} (hkey : IsBareKey key) {text : List Char} {value : Value}
    (hvalue : WrittenAs text value) :
    StatedAs (writeLine key text) [.entry (plainEntry (key, value))] :=
  @of_readLine _ (some _) (by simp [writeLine]) (readLine_writeLine hkey hvalue)

theorem header {key : String} (hkey : IsBareKey key) :
    StatedAs ('[' :: key.toList ++ [']', '\n']) [.table ⟨[], key⟩] := by
  apply @of_readLine _ (some _) (by simp)
  intro rest
  simpa using readLine_header hkey rest

/-- A whole text is read as its statements. -/
theorem statements?_eq {text : List Char} {statements : List Statement}
    (hstated : StatedAs text statements) : Document.statements? text = some statements := by
  have hend : Document.statements? [] = some [] := by
    simp [Document.statements?, Reader.untilEnd]
  have hread := hstated []
  rw [List.append_nil, hend] at hread
  simpa using hread

end StatedAs

/-! ## Lines with entries -/

/-- A line that states an entry, with the text of the value and what that text is read as. -/
structure EntryLine where
  key : String
  text : List Char
  value : Value
  bare : IsBareKey key
  written : WrittenAs text value

namespace EntryLine

/-- The line as it stands in a document. -/
def render (line : EntryLine) : List Char := writeLine line.key line.text

/-- The entry that the line states. -/
def entry (line : EntryLine) : String × Value := (line.key, line.value)

def ofString (key text : String) (bare : IsBareKey key := by decide) : EntryLine :=
  ⟨key, writeString text.toList, .string text, bare, writtenAs_string text⟩

def ofBoolean (key : String) (value : Bool) (bare : IsBareKey key := by decide) : EntryLine :=
  ⟨key, writeBoolean value, .boolean value, bare, writtenAs_boolean value⟩

def ofTexts (key : String) (texts : List String) (bare : IsBareKey key := by decide) : EntryLine :=
  ⟨key, writeTexts texts, .array (texts.map .string), bare, writtenAs_texts texts⟩

/-- A choice is written as its label. -/
def ofChoice {α : Type} [Enumerated α] (key : String) (a : α)
    (bare : IsBareKey key := by decide) : EntryLine :=
  ofString key (Enumerated.label a) bare

/-- Lines one after the other state their entries in order. -/
theorem statedAs_lines (lines : List EntryLine) :
    StatedAs (lines.flatMap render) (((lines.map entry).map plainEntry).map .entry) := by
  induction lines with
  | nil => exact StatedAs.nil
  | cons line lines ih =>
      have hline : StatedAs line.render [.entry (plainEntry line.entry)] :=
        StatedAs.entry line.bare line.written
      rw [List.flatMap_cons]
      exact hline.append ih

end EntryLine

end TargetConfig.Toml
