import TargetConfig.Profile.Toml
import TargetConfig.Proofs.Text.Reading
import TargetConfig.Proofs.Toml.Strings

/-! # Values read back as they were written

A written value ends in front of a line end, a comma or a bracket, and is read back up to there:
strings, truth values and lists of strings, in each of the three layouts of a list.
-/

namespace TargetConfig.Toml

open Text

/-- A text that starts neither with a quote of either kind: what follows a string in a document. -/
def AfterString (rest : List Char) : Prop := NoQuote '"' rest ∧ NoQuote '\'' rest

theorem afterString_cons {c : Char} (hdouble : c ≠ '"') (hsingle : c ≠ '\'') (rest : List Char) :
    AfterString (c :: rest) := by
  simp [AfterString, NoQuote, hdouble, hsingle]

theorem writeString_eq_cons (s : List Char) :
    ∃ c t, writeString s = c :: t ∧ (c = '"' ∨ c = '\'') := by
  unfold writeString StringForm.write StringForm.opening
  cases StringForm.choose s with
  | basic => exact ⟨_, _, rfl, Or.inl rfl⟩
  | literal => exact ⟨_, _, rfl, Or.inr rfl⟩
  | multilineBasic =>
      dsimp only
      split
      · exact ⟨_, _, rfl, Or.inl rfl⟩
      · exact ⟨_, _, rfl, Or.inl rfl⟩
  | multilineLiteral =>
      dsimp only
      split
      · exact ⟨_, _, rfl, Or.inr rfl⟩
      · exact ⟨_, _, rfl, Or.inr rfl⟩

theorem readValue_writeString (depth : Nat) (text : String) {rest : List Char}
    (hrest : AfterString rest) :
    readValue depth (writeString text.toList ++ rest) = some (.string text, rest) := by
  have hread := readString_writeString text.toList hrest.1 hrest.2
  obtain ⟨c, t, hcons, hquote⟩ := writeString_eq_cons text.toList
  rw [hcons, List.cons_append] at hread ⊢
  unfold readValue
  rw [if_pos (by simpa using hquote), hread]
  simp

theorem readValue_writeBoolean (depth : Nat) (value : Bool) (rest : List Char) :
    readValue depth (writeBoolean value ++ rest) = some (.boolean value, rest) := by
  unfold readValue
  cases value <;> rfl

/-! ## Lists -/

theorem skipTrivia_lineEnd (s : List Char) : skipTrivia false ('\n' :: s) = skipTrivia false s := by
  rw [skipTrivia.eq_def]
  simp

theorem skipTrivia_space (s : List Char) : skipTrivia false (' ' :: s) = skipTrivia false s := by
  rw [skipTrivia.eq_def]
  simp [isSpace]

/-- Trivia end in front of anything but blanks, line ends and comments. -/
theorem skipTrivia_of_mem {c : Char} (hc : c ∈ ['"', '\'', ',', ']']) (s : List Char) :
    skipTrivia false (c :: s) = c :: s := by
  rw [skipTrivia.eq_def]
  simp only [List.mem_cons, List.not_mem_nil, or_false] at hc
  rcases hc with rfl | rfl | rfl | rfl <;> simp [isSpace]

theorem skipTrivia_writeString (s rest : List Char) :
    skipTrivia false (writeString s ++ rest) = writeString s ++ rest := by
  obtain ⟨c, t, hcons, hquote⟩ := writeString_eq_cons s
  rw [hcons, List.cons_append]
  apply skipTrivia_of_mem
  rcases hquote with rfl | rfl <;> decide

/-- A list that starts with a string is not the empty one. -/
theorem list_eq_items (reader : Reader Value) {s text rest : List Char}
    (hskip : skipTrivia false s = writeString text ++ rest) :
    Reader.list (skipTrivia false) ']' true reader s =
      Reader.items (skipTrivia false) ']' true reader s := by
  obtain ⟨c, t, hcons, hquote⟩ := writeString_eq_cons text
  have hclose : c ≠ ']' := by rcases hquote with rfl | rfl <;> decide
  rw [hcons, List.cons_append] at hskip
  exact Reader.list_of_item hskip hclose

/-- The lines of a list that has its items on lines of their own. -/
def itemLines (texts : List String) : List Char :=
  texts.flatMap fun text => ' ' :: ' ' :: ' ' :: ' ' :: writeString text.toList ++ [',', '\n']

theorem itemLines_cons (text : String) (texts : List String) :
    itemLines (text :: texts) =
      ' ' :: ' ' :: ' ' :: ' ' :: (writeString text.toList ++ ',' :: '\n' :: itemLines texts) := by
  simp [itemLines]

theorem skipTrivia_itemLines (text : String) (texts : List String) (rest : List Char) :
    skipTrivia false ('\n' :: (itemLines (text :: texts) ++ rest)) =
      writeString text.toList ++ (',' :: '\n' :: (itemLines texts ++ rest)) := by
  simp only [itemLines_cons, List.cons_append, List.append_assoc, skipTrivia_lineEnd,
    skipTrivia_space, skipTrivia_writeString]

/-- The closing bracket stands on a line of its own, after the comma of the last item. -/
theorem items_itemLines (depth : Nat) (text : String) (texts : List String) (rest : List Char) :
    Reader.items (skipTrivia false) ']' true (readValue depth)
        ('\n' :: (itemLines (text :: texts) ++ ']' :: rest)) =
      some ((text :: texts).map .string, rest) := by
  have hitem : ∀ text (tail : List Char), readValue depth (writeString text.toList ++ ',' :: tail) =
      some (.string text, ',' :: tail) := fun text tail =>
    readValue_writeString depth text (afterString_cons (by decide) (by decide) tail)
  induction texts generalizing text with
  | nil =>
      apply Reader.items_trailing (by decide)
      · rw [skipTrivia_itemLines, hitem]
      · exact skipTrivia_of_mem (by decide) _
      · rw [itemLines, List.flatMap_nil, List.nil_append, skipTrivia_lineEnd,
          skipTrivia_of_mem (by decide)]
  | cons next texts ih =>
      -- after the comma another item follows, so its opening quote is no closing bracket
      obtain ⟨c, t, hcons, hquote⟩ := writeString_eq_cons next.toList
      rw [Reader.items_next (by decide), ih]
      · rfl
      · rw [skipTrivia_itemLines, hitem]
      · exact skipTrivia_of_mem (by decide) _
      · rw [skipTrivia_itemLines, hcons, List.cons_append]
      · rcases hquote with rfl | rfl <;> decide
      · rw [itemLines_cons text]
        simp only [List.length_cons, List.length_append]
        omega

/-- The reader of a value at an opening bracket. -/
theorem readValue_bracket (depth : Nat) (s : List Char) :
    readValue (depth + 1) ('[' :: s) =
      (Reader.list (skipTrivia false) ']' true (readValue depth) s).map
        fun r => (.array r.1, r.2) := by
  rw [readValue.eq_def]
  simp

theorem readValue_writeTexts (depth : Nat) (texts : List String) (rest : List Char) :
    readValue (depth + 1) (writeTexts texts ++ rest) =
      some (.array (texts.map .string), rest) := by
  -- one case for each layout: no item, one item, an item on each line
  rcases texts with _ | ⟨text, _ | ⟨next, texts⟩⟩
  · rw [writeTexts, List.cons_append, List.singleton_append, readValue_bracket,
      Reader.list_of_close (skipTrivia_of_mem (by decide) rest)]
    rfl
  · have hwrite : writeTexts [text] ++ rest =
        '[' :: (writeString text.toList ++ ']' :: rest) := by
      simp [writeTexts]
    have hitems : Reader.items (skipTrivia false) ']' true (readValue depth)
        (writeString text.toList ++ ']' :: rest) = some ([.string text], rest) := by
      apply Reader.items_last
      · rw [skipTrivia_writeString,
          readValue_writeString depth text (afterString_cons (by decide) (by decide) _)]
      · exact skipTrivia_of_mem (by decide) rest
    rw [hwrite, readValue_bracket, list_eq_items _ (skipTrivia_writeString _ _), hitems]
    rfl
  · have hwrite : writeTexts (text :: next :: texts) ++ rest =
        '[' :: '\n' :: (itemLines (text :: next :: texts) ++ ']' :: rest) := by
      simp [writeTexts, itemLines]
    rw [hwrite, readValue_bracket, list_eq_items _ (skipTrivia_itemLines _ _ _), items_itemLines]
    rfl

end TargetConfig.Toml
