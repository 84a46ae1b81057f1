import TargetConfig.Proofs.Text.Reading
import TargetConfig.Toml.Quoted

/-! # Strings read back as they were written

Each written form of a string is read back as the string, whatever follows it, as long as that is no
further quote. The two basic forms take any text, because they escape what cannot stand for itself.
The literal forms take what needs no escape, and they are chosen for nothing else.
-/

namespace TargetConfig.Toml

open Text

/-! ## Escapes -/

/-- A reader of the inside of a basic string that understands what `StringForm.escapeChar` writes:
characters that stand for themselves, escapes by a letter and escapes by four digits. -/
structure ReadsEscapes (body : Reader (List Char)) : Prop where
  plain : ∀ (c : Char) (s : List Char), isBasicChar c → body (c :: s) = consResult c (body s)
  letter : ∀ (e c : Char) (s : List Char), escaped? e = some c →
    body ('\\' :: e :: s) = consResult c (body s)
  digits : ∀ (a b c d x : Char) (s : List Char),
    (hexNumber? [a, b, c, d]).bind charOfCode? = some x →
      body ('\\' :: 'u' :: a :: b :: c :: d :: s) = consResult x (body s)

theorem isCommentChar_of_not_hidden {c : Char} (hhidden : isHiddenControl c = false)
    (hline : c ≠ '\n') : isCommentChar c = true := by
  simp only [isHiddenControl, isCommentChar, Bool.or_eq_false_iff, Bool.and_eq_false_iff,
    decide_eq_false_iff_not, Bool.and_eq_true, Bool.or_eq_true, decide_eq_true_eq] at *
  by_cases htab : c = '\t'
  · exact Or.inl htab
  · simp only [htab, hline, ne_eq, not_false_eq_true, not_true_eq_false, or_false] at hhidden
    right
    omega

theorem ReadsEscapes.escapeChar {body : Reader (List Char)} (hbody : ReadsEscapes body) {c : Char}
    (hquote : c ≠ '"') (hline : c ≠ '\n') (s : List Char) :
    body (StringForm.escapeChar c ++ s) = consResult c (body s) := by
  unfold StringForm.escapeChar
  split
  next => exact hbody.letter 'b' '\x08' s rfl
  next => exact hbody.letter 't' '\t' s rfl
  next => exact hbody.letter 'f' '\x0c' s rfl
  next => exact hbody.letter 'r' '\r' s rfl
  next => exact hbody.letter '\\' '\\' s rfl
  next hslash =>
    split
    next hhidden =>
      have hlt : c.toNat < 65536 := by
        simp only [isHiddenControl, Bool.or_eq_true, Bool.and_eq_true, decide_eq_true_eq] at hhidden
        omega
      apply hbody.digits
      change (hexNumber? ((hexFour c.toNat).map Char.toUpper)).bind charOfCode? = some c
      rw [hexNumber?_map_hexFour hexValue?_toUpper_digitChar hlt, Option.bind_some,
        charOfCode?_toNat]
    next hhidden =>
      have hcomment := isCommentChar_of_not_hidden (by simpa using hhidden) hline
      apply hbody.plain
      simp only [isBasicChar, hcomment, Bool.true_and, Bool.and_eq_true, decide_eq_true_eq]
      exact ⟨hquote, hslash⟩

/-! ## One line -/

theorem ne_of_isBasicChar {c : Char} (hc : isBasicChar c) : c ≠ '"' ∧ c ≠ '\\' ∧ c ≠ '\r' := by
  refine ⟨?_, ?_, ?_⟩ <;> rintro rfl <;> simp [isBasicChar, isCommentChar] at hc

theorem ne_of_escaped? {e c : Char} (he : escaped? e = some c) : e ≠ 'u' ∧ e ≠ 'U' ∧ e ≠ '\r' := by
  refine ⟨?_, ?_, ?_⟩ <;> rintro rfl <;> simp [escaped?] at he

theorem basicBody_readsEscapes : ReadsEscapes basicBody where
  plain c s hc := by
    obtain ⟨hquote, hslash, _⟩ := ne_of_isBasicChar hc
    rw [basicBody] <;> simp [hquote, hslash, hc]
  letter e c s he := by
    obtain ⟨hshort, hlong, _⟩ := ne_of_escaped? he
    rw [basicBody] <;> simp [hshort, hlong, he]
  digits a b c d x s hx := by rw [basicBody, hx]

theorem basicBody_writeBasic (s rest : List Char) :
    basicBody (StringForm.writeBasic s ++ '"' :: rest) = some (s, rest) := by
  induction s with
  | nil => rw [StringForm.writeBasic, List.nil_append, basicBody] <;> simp
  | cons c s ih =>
      rw [StringForm.writeBasic, List.append_assoc]
      have hread : ∀ t, basicBody ((if c = '"' then ['\\', '"'] else if c = '\n' then ['\\', 'n']
          else StringForm.escapeChar c) ++ t) = consResult c (basicBody t) := by
        intro t
        by_cases hquote : c = '"'
        · subst hquote
          exact basicBody_readsEscapes.letter '"' '"' t rfl
        · by_cases hline : c = '\n'
          · subst hline
            exact basicBody_readsEscapes.letter 'n' '\n' t rfl
          · rw [if_neg hquote, if_neg hline]
            exact basicBody_readsEscapes.escapeChar hquote hline t
      rw [hread, ih]
      rfl

theorem literalBody_append {s : List Char} (hs : ∀ c ∈ s, isLiteralChar c) (rest : List Char) :
    literalBody (s ++ '\'' :: rest) = some (s, rest) := by
  induction s with
  | nil => simp [literalBody]
  | cons c s ih =>
      have hc := hs c List.mem_cons_self
      have hquote : c ≠ '\'' := by
        rintro rfl
        simp [isLiteralChar] at hc
      have htail := ih fun d hd => hs d (List.mem_cons_of_mem _ hd)
      simp [literalBody, hquote, hc, htail, consResult]

/-! ## Several lines -/

/-- A text that does not start with the given quote, as what follows a string. -/
def NoQuote (quote : Char) (rest : List Char) : Prop := rest.head? ≠ some quote

theorem NoQuote.ne {quote c : Char} {rest : List Char} (hrest : NoQuote quote (c :: rest)) :
    c ≠ quote := by
  rintro rfl
  exact hrest rfl

theorem closing?_zero {quote : Char} {rest : List Char} (hrest : NoQuote quote rest) :
    closing? quote (quote :: quote :: rest) = some (0, rest) := by
  rcases rest with _ | ⟨c, _ | ⟨d, rest⟩⟩
  · simp [closing?]
  · simp [closing?, hrest.ne]
  · simp [closing?, hrest.ne]

theorem closing?_one {quote : Char} {rest : List Char} (hrest : NoQuote quote rest) :
    closing? quote (quote :: quote :: quote :: rest) = some (1, rest) := by
  cases rest with
  | nil => simp [closing?]
  | cons c rest => simp [closing?, hrest.ne]

theorem closing?_two (quote : Char) (rest : List Char) :
    closing? quote (quote :: quote :: quote :: quote :: rest) = some (2, rest) := by
  simp [closing?]

theorem closing?_of_first_ne {quote c : Char} (hc : c ≠ quote) (s : List Char) :
    closing? quote (c :: s) = none := by
  rcases s with _ | ⟨d, _ | ⟨e, _ | ⟨f, s⟩⟩⟩ <;> simp [closing?, hc]

theorem closing?_of_second_ne {quote d : Char} (hd : d ≠ quote) (c : Char) (s : List Char) :
    closing? quote (c :: d :: s) = none := by
  rcases s with _ | ⟨e, _ | ⟨f, s⟩⟩ <;> simp [closing?, hd]

/-- The reader of a multi-line basic string at a quote. -/
theorem multilineBasicBody_quote (s : List Char) :
    multilineBasicBody .text ('"' :: s) =
      match closing? '"' s with
      | some (quotes, rest) => some (List.replicate quotes '"', rest)
      | none => consResult '"' (multilineBasicBody .text s) := by
  rw [multilineBasicBody]
  · rfl
  all_goals simp

theorem multilineBasicBody_lineEnd (s : List Char) :
    multilineBasicBody .text ('\n' :: s) = consResult '\n' (multilineBasicBody .text s) := by
  rw [multilineBasicBody] <;> simp

theorem multilineBasicBody_readsEscapes : ReadsEscapes (multilineBasicBody .text) where
  plain c s hc := by
    obtain ⟨hquote, hslash, hreturn⟩ := ne_of_isBasicChar hc
    rw [multilineBasicBody] <;> simp [hquote, hslash, hreturn, hc]
  letter e c s he := by
    obtain ⟨hshort, hlong, hreturn⟩ := ne_of_escaped? he
    rw [multilineBasicBody] <;> simp [hshort, hlong, hreturn, he]
  digits a b c d x s hx := by
    rw [multilineBasicBody, hx]
    simp

/-- What `StringForm.escapeChar` writes starts neither with a quote nor with a line end. -/
theorem escapeChar_eq_cons {c : Char} (hquote : c ≠ '"') (hline : c ≠ '\n') :
    ∃ d s, StringForm.escapeChar c = d :: s ∧ d ≠ '"' ∧ d ≠ '\n' ∧ d ≠ '\r' := by
  unfold StringForm.escapeChar
  split
  case h_6 hreturn _ =>
    split
    · exact ⟨_, _, rfl, by decide⟩
    · exact ⟨_, _, rfl, hquote, hline, hreturn⟩
  all_goals exact ⟨_, _, rfl, by decide⟩

/-- The inside of a multi-line basic string starts with a quote only where the text does, and not
after two quotes. -/
theorem writeMultilineBasic_eq_cons {quotes : Nat} {c : Char} (s : List Char)
    (hc : c ≠ '"' ∨ quotes = 2) :
    ∃ d t, StringForm.writeMultilineBasic quotes (c :: s) = d :: t ∧ d ≠ '"' := by
  unfold StringForm.writeMultilineBasic
  by_cases hquote : c = '"'
  · have htwo : quotes = 2 := hc.resolve_left (not_not_intro hquote)
    rw [if_pos hquote, if_pos htwo]
    exact ⟨_, _, rfl, by decide⟩
  · rw [if_neg hquote]
    by_cases hline : c = '\n'
    · rw [if_pos hline]
      exact ⟨_, _, rfl, by decide⟩
    · obtain ⟨d, t, hescape, hd, _⟩ := escapeChar_eq_cons hquote hline
      rw [if_neg hline, hescape]
      exact ⟨_, _, rfl, hd⟩

/-- After a quote of the text, the closing quotes are found just when at most one more quote of the
text comes first. -/
theorem closing?_writeMultilineBasic {quotes : Nat} (hquotes : quotes = 1 ∨ quotes = 2)
    (s : List Char) {rest : List Char} (hrest : NoQuote '"' rest) :
    let found := closing? '"' (StringForm.writeMultilineBasic quotes s ++ '"' :: '"' :: '"' :: rest)
    (s = [] ∧ found = some (1, rest)) ∨ (s = ['"'] ∧ found = some (2, rest)) ∨ found = none := by
  intro found
  cases s with
  | nil => exact Or.inl ⟨rfl, closing?_one hrest⟩
  | cons c s =>
      right
      by_cases hc : c ≠ '"' ∨ quotes = 2
      · obtain ⟨d, t, hwrite, hd⟩ := writeMultilineBasic_eq_cons s hc
        right
        simp only [found, hwrite]
        exact closing?_of_first_ne hd _
      · simp only [not_or, ne_eq, Decidable.not_not] at hc
        obtain rfl := hc.1
        obtain rfl := hquotes.resolve_right hc.2
        cases s with
        | nil => exact Or.inl ⟨rfl, closing?_two _ _⟩
        | cons e s =>
            obtain ⟨d, t, hwrite, hd⟩ := @writeMultilineBasic_eq_cons 2 e s (Or.inr rfl)
            have hfirst : StringForm.writeMultilineBasic 1 ('"' :: e :: s) = '"' :: d :: t := by
              rw [← hwrite]
              rfl
            right
            simp only [found, hfirst]
            exact closing?_of_second_ne hd _ _

theorem multilineBasicBody_writeMultilineBasic {quotes : Nat} (hquotes : quotes ≤ 2)
    (s : List Char) {rest : List Char} (hrest : NoQuote '"' rest) :
    multilineBasicBody .text
      (StringForm.writeMultilineBasic quotes s ++ '"' :: '"' :: '"' :: rest) = some (s, rest) := by
  -- `quotes` counts the quotes written directly before; the third in a row is escaped
  induction s generalizing quotes with
  | nil =>
      rw [StringForm.writeMultilineBasic, List.nil_append, multilineBasicBody_quote,
        closing?_zero hrest]
      rfl
  | cons c s ih =>
      by_cases hquote : c = '"'
      · subst hquote
        by_cases htwo : quotes = 2
        · rw [StringForm.writeMultilineBasic, if_pos rfl, if_pos htwo]
          have hread := multilineBasicBody_readsEscapes.letter '"' '"'
            (StringForm.writeMultilineBasic 0 s ++ '"' :: '"' :: '"' :: rest) rfl
          rw [List.cons_append, List.cons_append, hread, ih (by decide)]
          rfl
        · -- a quote that stands for itself: the closing quotes may already begin here
          rw [StringForm.writeMultilineBasic, if_pos rfl, if_neg htwo, List.cons_append,
            multilineBasicBody_quote]
          have hnext : quotes + 1 = 1 ∨ quotes + 1 = 2 := by omega
          obtain ⟨rfl, hfound⟩ | ⟨rfl, hfound⟩ | hfound :=
            closing?_writeMultilineBasic hnext s hrest
          · rw [hfound]
            rfl
          · rw [hfound]
            rfl
          · rw [hfound, ih (by omega)]
            rfl
      · rw [StringForm.writeMultilineBasic, if_neg hquote]
        by_cases hline : c = '\n'
        · subst hline
          rw [if_pos rfl, List.cons_append, multilineBasicBody_lineEnd, ih (by decide)]
          rfl
        · rw [if_neg hline, List.append_assoc,
            multilineBasicBody_readsEscapes.escapeChar hquote hline, ih (by decide)]
          rfl

/-! ### Literal strings of several lines -/

theorem le_longestRun (x : Char) (current : Nat) (s : List Char) :
    current ≤ longestRun x current s := by
  induction s generalizing current with
  | nil => exact Nat.le_refl current
  | cons c s ih =>
      unfold longestRun
      split
      · have := ih (current + 1)
        omega
      · exact Nat.le_max_left _ _

/-- What may stand in a multi-line literal string: quotes, line feeds and what a literal string on
one line may hold. -/
def IsMultilineLiteralChar (c : Char) : Prop := c = '\'' ∨ c = '\n' ∨ isLiteralChar c

theorem closing?_of_longestRun {quote : Char} {quotes : Nat} (hquotes : 1 ≤ quotes) {s : List Char}
    (hrun : longestRun quote quotes s ≤ 2) {rest : List Char} (hrest : NoQuote quote rest) :
    let found := closing? quote (s ++ quote :: quote :: quote :: rest)
    (s = [] ∧ found = some (1, rest)) ∨ (s = [quote] ∧ found = some (2, rest)) ∨ found = none := by
  intro found
  cases s with
  | nil => exact Or.inl ⟨rfl, closing?_one hrest⟩
  | cons c s =>
      right
      by_cases hc : c = quote
      · subst hc
        cases s with
        | nil => exact Or.inl ⟨rfl, closing?_two _ _⟩
        | cons d s =>
            right
            -- a second quote would be the third in a row, counting the one before `s`
            have hd : d ≠ c := by
              rintro rfl
              simp only [longestRun, if_true] at hrun
              have := le_longestRun d (quotes + 1 + 1) s
              omega
            exact closing?_of_second_ne hd _ _
      · exact Or.inr (closing?_of_first_ne hc _)

/-- The reader of a multi-line literal string at a quote. -/
theorem multilineLiteralBody_quote (s : List Char) :
    multilineLiteralBody ('\'' :: s) =
      match closing? '\'' s with
      | some (quotes, rest) => some (List.replicate quotes '\'', rest)
      | none => consResult '\'' (multilineLiteralBody s) := by
  rw [multilineLiteralBody]
  · rfl
  all_goals simp

theorem multilineLiteralBody_plain {c : Char} (hc : IsMultilineLiteralChar c) (hquote : c ≠ '\'')
    (s : List Char) :
    multilineLiteralBody (c :: s) = consResult c (multilineLiteralBody s) := by
  have hplain : c = '\n' ∨ isLiteralChar c := hc.resolve_left hquote
  have hreturn : c ≠ '\r' := by
    rintro rfl
    simp [isLiteralChar, isCommentChar] at hplain
  rw [multilineLiteralBody] <;> simp [hquote, hreturn, hplain]

theorem multilineLiteralBody_append {quotes : Nat} {s : List Char}
    (hs : ∀ c ∈ s, IsMultilineLiteralChar c) (hrun : longestRun '\'' quotes s ≤ 2)
    {rest : List Char} (hrest : NoQuote '\'' rest) :
    multilineLiteralBody (s ++ '\'' :: '\'' :: '\'' :: rest) = some (s, rest) := by
  -- the bound on the longest run of quotes holds for each end of the text
  induction s generalizing quotes with
  | nil =>
      rw [List.nil_append, multilineLiteralBody_quote, closing?_zero hrest]
      rfl
  | cons c s ih =>
      have hmem : ∀ d ∈ s, IsMultilineLiteralChar d := fun d hd => hs d (List.mem_cons_of_mem _ hd)
      rw [List.cons_append]
      by_cases hc : c = '\''
      · subst hc
        rw [longestRun, if_pos rfl] at hrun
        rw [multilineLiteralBody_quote]
        obtain ⟨rfl, hfound⟩ | ⟨rfl, hfound⟩ | hfound :=
          closing?_of_longestRun (Nat.le_add_left 1 quotes) hrun hrest
        · rw [hfound]
          rfl
        · rw [hfound]
          rfl
        · rw [hfound, ih hmem hrun]
          rfl
      · rw [longestRun, if_neg hc] at hrun
        have htail := ih hmem (Nat.le_trans (Nat.le_max_right quotes _) hrun)
        rw [multilineLiteralBody_plain (hs c List.mem_cons_self) hc, htail]
        rfl

/-! ## The chosen form -/

namespace StringForm

/-- What a form needs of a text. The basic forms escape what they must and so take any text. -/
def Fits (s : List Char) : StringForm → Prop
  | basic => True
  | literal => ∀ c ∈ s, isLiteralChar c
  | multilineBasic => True
  | multilineLiteral => (∀ c ∈ s, IsMultilineLiteralChar c) ∧ longestRun '\'' 0 s ≤ 2

theorem choose_fits (s : List Char) : (choose s).Fits s := by
  -- both literal forms are chosen for texts without control characters only
  have hcomment : (!s.any isHiddenControl) = true → ∀ c ∈ s, c ≠ '\n' → isCommentChar c := by
    intro hplain c hc hline
    simp only [Bool.not_eq_true', List.any_eq_false] at hplain
    exact isCommentChar_of_not_hidden (by simpa using hplain c hc) hline
  unfold choose
  dsimp only
  split
  next => trivial
  next =>
    split
    next hliteral =>
      simp only [Bool.and_eq_true] at hliteral
      obtain ⟨⟨hplain, hline⟩, hquote⟩ := hliteral
      intro c hc
      have hcline : c ≠ '\n' := by
        rintro rfl
        simp [hc] at hline
      have hcquote : c ≠ '\'' := by
        rintro rfl
        simp [hc] at hquote
      simp [isLiteralChar, hcomment hplain c hc hcline, hcquote]
    next =>
      split
      next => trivial
      next =>
        split
        next hliteral =>
          simp only [Bool.and_eq_true, decide_eq_true_eq] at hliteral
          refine ⟨?_, hliteral.2⟩
          intro c hc
          by_cases hquote : c = '\''
          · exact Or.inl hquote
          · by_cases hline : c = '\n'
            · exact Or.inr (Or.inl hline)
            · right
              right
              simp [isLiteralChar, hcomment hliteral.1 c hc hline, hquote]
        next => split <;> trivial

end StringForm

theorem writeBasic_eq_cons (c : Char) (s : List Char) :
    ∃ d t, StringForm.writeBasic (c :: s) = d :: t ∧ d ≠ '"' := by
  unfold StringForm.writeBasic
  by_cases hquote : c = '"'
  · rw [if_pos hquote]
    exact ⟨_, _, rfl, by decide⟩
  · rw [if_neg hquote]
    by_cases hline : c = '\n'
    · rw [if_pos hline]
      exact ⟨_, _, rfl, by decide⟩
    · obtain ⟨d, t, hescape, hd, _⟩ := escapeChar_eq_cons hquote hline
      rw [if_neg hline, hescape]
      exact ⟨_, _, rfl, hd⟩

/-- One quote, and not three, opens a string on one line. -/
theorem readString_double {s : List Char} (hs : ∀ t, s ≠ '"' :: '"' :: t) :
    readString ('"' :: s) = basicBody s := by
  rw [readString]
  · rfl
  · intro t ht
    exact hs t (List.cons.inj ht).2
  · intro t ht
    exact absurd (List.cons.inj ht).1 (by decide)

theorem readString_single {s : List Char} (hs : ∀ t, s ≠ '\'' :: '\'' :: t) :
    readString ('\'' :: s) = literalBody s := by
  rw [readString]
  · rfl
  · intro t ht
    exact absurd (List.cons.inj ht).1 (by decide)
  · intro t ht
    exact hs t (List.cons.inj ht).2

theorem skipFirstLineEnd_of_ne {c : Char} (hline : c ≠ '\n') (hreturn : c ≠ '\r')
    (s : List Char) : skipFirstLineEnd (c :: s) = c :: s := by
  rw [skipFirstLineEnd] <;> simp [hline, hreturn]

/-- A line end directly after the opening quotes is the one that was put there. -/
theorem skipFirstLineEnd_opening {s body : List Char}
    (hbody : '\n' ∉ s → ∃ c t, body = c :: t ∧ c ≠ '\n' ∧ c ≠ '\r') (quote : Char) :
    ∃ t, StringForm.opening [quote, quote, quote] s ++ body = quote :: quote :: quote :: t ∧
      skipFirstLineEnd t = body := by
  unfold StringForm.opening
  by_cases hline : '\n' ∈ s
  · rw [if_pos (by simpa using hline)]
    exact ⟨'\n' :: body, rfl, rfl⟩
  · rw [if_neg (by simpa using hline)]
    obtain ⟨c, t, rfl, hc, hreturn⟩ := hbody hline
    exact ⟨c :: t, rfl, skipFirstLineEnd_of_ne hc hreturn t⟩

/-- What `StringForm.writeMultilineBasic` writes starts with a line end only where the text has
one. -/
theorem writeMultilineBasic_of_not_mem {s : List Char} (hline : '\n' ∉ s) (rest : List Char) :
    ∃ c t, StringForm.writeMultilineBasic 0 s ++ '"' :: rest = c :: t ∧ c ≠ '\n' ∧ c ≠ '\r' := by
  cases s with
  | nil => exact ⟨_, _, rfl, by decide⟩
  | cons c s =>
      unfold StringForm.writeMultilineBasic
      by_cases hquote : c = '"'
      · rw [if_pos hquote]
        exact ⟨_, _, rfl, by decide⟩
      · have hc : c ≠ '\n' := by
          rintro rfl
          exact hline List.mem_cons_self
        obtain ⟨d, t, hescape, _, hd⟩ := escapeChar_eq_cons hquote hc
        rw [if_neg hquote, if_neg hc, hescape]
        exact ⟨_, _, rfl, hd⟩

theorem readString_multilineBasic (s : List Char) {rest : List Char} (hrest : NoQuote '"' rest) :
    readString (StringForm.multilineBasic.write s ++ rest) = some (s, rest) := by
  have hbody := fun hline => @writeMultilineBasic_of_not_mem s hline ('"' :: '"' :: rest)
  obtain ⟨t, hopening, hskip⟩ := skipFirstLineEnd_opening hbody '"'
  have hwrite : StringForm.multilineBasic.write s ++ rest = '"' :: '"' :: '"' :: t := by
    rw [← hopening]
    simp [StringForm.write]
  rw [hwrite, readString, hskip]
  exact multilineBasicBody_writeMultilineBasic (Nat.zero_le 2) s hrest

theorem readString_multilineLiteral {s : List Char}
    (hfits : StringForm.multilineLiteral.Fits s) {rest : List Char} (hrest : NoQuote '\'' rest) :
    readString (StringForm.multilineLiteral.write s ++ rest) = some (s, rest) := by
  obtain ⟨hs, hrun⟩ := hfits
  have hbody : '\n' ∉ s → ∃ c t, s ++ '\'' :: '\'' :: '\'' :: rest = c :: t ∧
      c ≠ '\n' ∧ c ≠ '\r' := by
    intro hline
    cases s with
    | nil => exact ⟨_, _, rfl, by decide⟩
    | cons c s =>
        refine ⟨c, _, rfl, ?_, ?_⟩
        · rintro rfl
          exact hline List.mem_cons_self
        · rintro rfl
          have hc := hs '\r' List.mem_cons_self
          simp [IsMultilineLiteralChar, isLiteralChar, isCommentChar] at hc
  obtain ⟨t, hopening, hskip⟩ := skipFirstLineEnd_opening hbody '\''
  have hwrite : StringForm.multilineLiteral.write s ++ rest = '\'' :: '\'' :: '\'' :: t := by
    rw [← hopening]
    simp [StringForm.write]
  rw [hwrite, readString, hskip]
  exact multilineLiteralBody_append hs hrun hrest

/-- A form that fits a text is read back, whatever follows. -/
theorem readString_write {s : List Char} {form : StringForm} (hfits : form.Fits s)
    {rest : List Char} (hdouble : NoQuote '"' rest) (hsingle : NoQuote '\'' rest) :
    readString (form.write s ++ rest) = some (s, rest) := by
  cases form with
  | basic =>
      have hwrite : StringForm.basic.write s ++ rest =
          '"' :: (StringForm.writeBasic s ++ '"' :: rest) := by
        simp [StringForm.write]
      rw [hwrite, readString_double]
      · exact basicBody_writeBasic s rest
      · intro t ht
        cases s with
        | nil => exact hdouble (congrArg List.head? (List.cons.inj ht).2)
        | cons c s =>
            obtain ⟨d, u, hcons, hd⟩ := writeBasic_eq_cons c s
            rw [hcons] at ht
            exact hd (List.cons.inj ht).1
  | literal =>
      have hwrite : StringForm.literal.write s ++ rest = '\'' :: (s ++ '\'' :: rest) := by
        simp [StringForm.write]
      rw [hwrite, readString_single]
      · exact literalBody_append hfits rest
      · intro t ht
        cases s with
        | nil => exact hsingle (congrArg List.head? (List.cons.inj ht).2)
        | cons c s =>
            have hc := hfits c List.mem_cons_self
            rw [(List.cons.inj ht).1] at hc
            simp [isLiteralChar] at hc
  | multilineBasic => exact readString_multilineBasic s hdouble
  | multilineLiteral => exact readString_multilineLiteral hfits hsingle

/-- A written string is read back, whatever text it holds. -/
theorem readString_writeString (s : List Char) {rest : List Char} (hdouble : NoQuote '"' rest)
    (hsingle : NoQuote '\'' rest) : readString (writeString s ++ rest) = some (s, rest) :=
  readString_write (StringForm.choose_fits s) hdouble hsingle

end TargetConfig.Toml
