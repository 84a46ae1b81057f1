import Mathlib.Data.List.TakeDrop
import TargetConfig.Json.Reader
import TargetConfig.Json.Writer
import TargetConfig.Proofs.Text.Reading

/-! # JSON strings and numbers read back

A written string is read back up to its closing quote, whatever characters it has and whatever
follows it. A whole number of 64 bits is read back in front of anything that cannot continue a
number.
-/

namespace TargetConfig.Json

open Text

/-! ## Strings -/

/-- The ways in which a character is written in a string: by a letter, by its four digits, or as
it is. -/
inductive Escaped (c : Char) : List Char → Prop
  | letter {e : Char} (he : escaped? e = some c) : Escaped c ['\\', e]
  | digits (hcontrol : c.toNat < 0x20) : Escaped c ('\\' :: 'u' :: hexFour c.toNat)
  | plain (hquote : c ≠ '"') (hslash : c ≠ '\\') (hspace : 0x20 ≤ c.toNat) : Escaped c [c]

theorem escaped_escapeChar (c : Char) : Escaped c (escapeChar c) := by
  unfold escapeChar
  split
  next => exact .letter rfl
  next => exact .letter rfl
  next => exact .letter rfl
  next => exact .letter rfl
  next => exact .letter rfl
  next => exact .letter rfl
  next => exact .letter rfl
  next hquote hslash _ _ _ _ _ =>
    split
    next hcontrol => exact .digits hcontrol
    next hcontrol => exact .plain hquote hslash (Nat.not_lt.mp hcontrol)

theorem ne_of_escaped? {e c : Char} (he : escaped? e = some c) : e ≠ 'u' := by
  intro heq
  simp [heq, escaped?] at he

theorem stringBody_letter {e c : Char} (he : escaped? e = some c) (s : List Char) :
    stringBody ('\\' :: e :: s) = (stringBody s).map fun r => (c :: r.1, r.2) := by
  rw [stringBody]
  · rw [he]
  · simp [ne_of_escaped? he]
  · simp [ne_of_escaped? he]

theorem stringBody_plain {c : Char} (hquote : c ≠ '"') (hslash : c ≠ '\\')
    (hspace : 0x20 ≤ c.toNat) (s : List Char) :
    stringBody (c :: s) = (stringBody s).map fun r => (c :: r.1, r.2) := by
  rw [stringBody] <;> simp [hquote, hslash, Nat.not_lt.mpr hspace]

/-- Wherever a text announces four digits at its beginning, they follow. -/
def KeepsDigits (s : List Char) : Prop :=
  ∀ a b c d t, s = '\\' :: 'u' :: a :: b :: c :: d :: t → ∃ n, hexNumber? [a, b, c, d] = some n

/-- Four digits that are no half of a pair stand for their own character. If four more digits are
announced directly after them, both are looked at together. -/
theorem stringBody_digits {a b c d x : Char} (hx : x.toNat < 0xD800)
    (hdigits : hexNumber? [a, b, c, d] = some x.toNat) {s : List Char} (hs : KeepsDigits s) :
    stringBody ('\\' :: 'u' :: a :: b :: c :: d :: s) =
      (stringBody s).map fun r => (x :: r.1, r.2) := by
  have hsingle : ∀ n, joinSurrogates? x.toNat n = none := by
    intro n
    simp [joinSurrogates?, Nat.not_le_of_lt hx]
  by_cases hnext : ∃ e f g h t, s = '\\' :: 'u' :: e :: f :: g :: h :: t
  · obtain ⟨e, f, g, h, t, heq⟩ := hnext
    obtain ⟨n, hn⟩ := hs e f g h t heq
    rw [heq, stringBody]
    simp [hdigits, hn, hsingle, charOfCode?_toNat]
  · rw [stringBody]
    · simp [hdigits, charOfCode?_toNat]
    · intro e f g h t heq
      exact hnext ⟨e, f, g, h, t, heq⟩

theorem Escaped.keepsDigits {c : Char} {text : List Char} (htext : Escaped c text)
    (s : List Char) : KeepsDigits (text ++ s) := by
  intro a b d e t heq
  cases htext with
  | letter he =>
      simp only [List.cons_append, List.cons.injEq, true_and] at heq
      exact absurd heq.1 (ne_of_escaped? he)
  | digits hcontrol =>
      have hfour : hexFour c.toNat = [a, b, d, e] := by
        simp only [hexFour, List.map_cons, List.map_nil, List.cons_append, List.nil_append,
          List.cons.injEq, true_and, and_true] at heq ⊢
        exact ⟨heq.1, heq.2.1, heq.2.2.1, heq.2.2.2.1⟩
      rw [← hfour]
      exact ⟨c.toNat, hexNumber?_hexFour (by omega)⟩
  | plain _ hslash _ =>
      simp only [List.cons_append, List.cons.injEq] at heq
      exact absurd heq.1 hslash

theorem keepsDigits_flatMap (s rest : List Char) :
    KeepsDigits (s.flatMap escapeChar ++ '"' :: rest) := by
  cases s with
  | nil => simp [KeepsDigits]
  | cons c s =>
      rw [List.flatMap_cons, List.append_assoc]
      exact (escaped_escapeChar c).keepsDigits _

theorem Escaped.stringBody_append {c : Char} {text : List Char} (htext : Escaped c text)
    {s : List Char} (hs : KeepsDigits s) :
    stringBody (text ++ s) = (stringBody s).map fun r => (c :: r.1, r.2) := by
  cases htext with
  | letter he => exact stringBody_letter he s
  | digits hcontrol => exact stringBody_digits (by omega) (hexNumber?_hexFour (by omega)) hs
  | plain hquote hslash hspace => exact stringBody_plain hquote hslash hspace s

theorem stringBody_escaped (s rest : List Char) :
    stringBody (s.flatMap escapeChar ++ '"' :: rest) = some (s, rest) := by
  induction s with
  | nil => rw [List.flatMap_nil, List.nil_append, stringBody]
  | cons c s ih =>
      rw [List.flatMap_cons, List.append_assoc,
        (escaped_escapeChar c).stringBody_append (keepsDigits_flatMap s rest), ih]
      rfl

theorem readString_renderString (s : String) (rest : List Char) :
    readString ((renderString s).toList ++ rest) = some (s, rest) := by
  have hwritten : (renderString s).toList ++ rest =
      '"' :: (s.toList.flatMap escapeChar ++ '"' :: rest) := by
    simp [renderString]
  rw [hwritten, readString, stringBody_escaped]
  simp

/-! ## Whole numbers -/

/-- A text that cannot go on with a number. -/
def EndsNumber (rest : List Char) : Prop :=
  ∀ c ∈ rest.head?, c.isDigit = false ∧ c ≠ '.' ∧ c ≠ 'e' ∧ c ≠ 'E'

theorem decimalNumber_toDigits (n : Nat) : decimalNumber (Nat.toDigits 10 n) = n := by
  have hdigits := Nat.ofDigitChars_ten_toDigits (n := n)
  rw [Nat.ofDigitChars_eq_foldl] at hdigits
  exact hdigits

theorem isDigit_of_mem_toDigits {n : Nat} {c : Char} (hc : c ∈ Nat.toDigits 10 n) :
    c.isDigit = true :=
  Nat.isDigit_of_mem_toDigits (by decide) (by decide) hc

theorem span_toDigits (n : Nat) {rest : List Char} (hrest : EndsNumber rest) :
    (Nat.toDigits 10 n ++ rest).span (·.isDigit) = (Nat.toDigits 10 n, rest) := by
  have hdigits : ∀ c ∈ Nat.toDigits 10 n, c.isDigit = true := fun _ => isDigit_of_mem_toDigits
  rw [List.span_eq_takeWhile_dropWhile, List.takeWhile_append_of_pos hdigits,
    List.dropWhile_append_of_pos hdigits]
  cases rest with
  | nil => simp
  | cons c rest => simp [(hrest c rfl).1]

theorem toDigits_eq_cons (n : Nat) : ∃ c t, Nat.toDigits 10 n = c :: t ∧ c.isDigit = true := by
  obtain ⟨c, t, hcons⟩ := List.exists_cons_of_ne_nil (Nat.toDigits_ne_nil (n := n) (b := 10))
  have hmem : c ∈ Nat.toDigits 10 n := hcons ▸ List.mem_cons_self
  exact ⟨c, t, hcons, isDigit_of_mem_toDigits hmem⟩

/-- The digits of a number above zero do not begin with a zero. -/
theorem head?_toDigits {n : Nat} (hn : 0 < n) : (Nat.toDigits 10 n).head? ≠ some '0' := by
  induction n using Nat.strongRecOn with
  | ind n ih =>
      by_cases hlt : n < 10
      · rw [Nat.toDigits_of_lt_base hlt]
        have hdigit : ∀ d < 10, 0 < d → [Nat.digitChar d].head? ≠ some '0' := by decide
        exact hdigit n hlt hn
      · rw [Nat.toDigits_of_base_le (by decide) (Nat.le_of_not_lt hlt),
          List.head?_append, Option.or_of_isSome (by simp [Nat.toDigits_ne_nil])]
        exact ih (n / 10) (by omega) (by omega)

/-- The digits of a number have no leading zero. -/
theorem leadingZero_toDigits (n : Nat) :
    ((Nat.toDigits 10 n).head? = some '0' && (Nat.toDigits 10 n).length > 1) = false := by
  rcases Nat.eq_zero_or_pos n with hzero | hpos
  · rw [hzero]
    rfl
  · simp [head?_toDigits hpos]

/-- Digits that nothing continues are a whole number, with a sign in front of them or not. -/
theorem readNumber_of_span {s digits rest : List Char}
    (hspan : (if s.head? = some '-' then s.drop 1 else s).span (·.isDigit) = (digits, rest))
    (hempty : digits.isEmpty = false)
    (hzero : (digits.head? = some '0' && digits.length > 1) = false) (hrest : EndsNumber rest) :
    readNumber s =
      if s.head? = some '-' && 0 < decimalNumber digits && decimalNumber digits ≤ Nat.pow 2 63 then
        some (integer (-decimalNumber digits), rest)
      else if !(s.head? = some '-') && decimalNumber digits < Nat.pow 2 64 then
        some (integer (decimalNumber digits), rest)
      else (floatOf (s.head? = some '-') digits [] 0).map fun x => (number x, rest) := by
  have hpoint : rest.head? ≠ some '.' := fun hhead => (hrest _ hhead).2.1 rfl
  have hlower : rest.head? ≠ some 'e' := fun hhead => (hrest _ hhead).2.2.1 rfl
  have hupper : rest.head? ≠ some 'E' := fun hhead => (hrest _ hhead).2.2.2 rfl
  simp only [readNumber, hspan, hempty, hzero, hpoint, hlower, hupper, decide_false,
    Bool.or_false, Bool.false_eq_true, if_false, Bool.false_and]

theorem readNumber_natural {n : Nat} (hn : n < Nat.pow 2 64) {rest : List Char}
    (hrest : EndsNumber rest) :
    readNumber (Nat.toDigits 10 n ++ rest) = some (integer n, rest) := by
  have hsign : (Nat.toDigits 10 n ++ rest).head? ≠ some '-' := by
    obtain ⟨c, t, hcons, hdigit⟩ := toDigits_eq_cons n
    rw [hcons, List.cons_append, List.head?_cons]
    intro heq
    rw [Option.some.inj heq] at hdigit
    contradiction
  rw [readNumber_of_span (by rw [if_neg hsign, span_toDigits n hrest])
    (by simp [Nat.toDigits_ne_nil]) (leadingZero_toDigits n) hrest, decimalNumber_toDigits]
  simp only [hsign, decide_false, Bool.false_and, Bool.false_eq_true, if_false, Bool.not_false,
    Bool.true_and, decide_eq_true_eq]
  exact if_pos hn

theorem readNumber_negative {n : Nat} (hpos : 0 < n) (hn : n ≤ Nat.pow 2 63) {rest : List Char}
    (hrest : EndsNumber rest) :
    readNumber ('-' :: (Nat.toDigits 10 n ++ rest)) = some (integer (-n), rest) := by
  rw [readNumber_of_span (by simpa using span_toDigits n hrest)
    (by simp [Nat.toDigits_ne_nil]) (leadingZero_toDigits n) hrest, decimalNumber_toDigits]
  simp only [List.head?_cons, decide_true, Bool.true_and, Bool.and_eq_true, decide_eq_true_eq]
  exact if_pos ⟨hpos, hn⟩

/-- A whole number that fits 64 bits, with a sign or without one. -/
def FitsWord (value : Int) : Prop :=
  -(Nat.pow 2 63 : Nat) ≤ value ∧ value < (Nat.pow 2 64 : Nat)

theorem readNumber_toString {value : Int} (hfits : FitsWord value) {rest : List Char}
    (hrest : EndsNumber rest) :
    readNumber ((toString value).toList ++ rest) = some (integer value, rest) := by
  obtain ⟨hlow, hhigh⟩ := hfits
  rw [Int.toString_eq_repr, Int.repr_eq_if]
  split
  next hnonneg =>
    have hread := readNumber_natural (n := value.toNat) (by omega) hrest
    rw [Int.toNat_of_nonneg hnonneg] at hread
    simpa [Nat.repr] using hread
  next hnegative =>
    have hread := readNumber_negative (n := (-value).toNat) (by omega) (by omega) hrest
    rw [Int.toNat_of_nonneg (by omega), Int.neg_neg] at hread
    simpa [Nat.repr] using hread

/-! ## How a whole number begins -/

theorem toString_eq_cons (value : Int) :
    ∃ c t, (toString value).toList = c :: t ∧ (c.isDigit = true ∨ c = '-') := by
  rw [Int.toString_eq_repr, Int.repr_eq_if]
  split
  next =>
    obtain ⟨c, t, hcons, hdigit⟩ := toDigits_eq_cons value.toNat
    exact ⟨c, t, by simp [Nat.repr, hcons], Or.inl hdigit⟩
  next => exact ⟨'-', (-value).toNat.repr.toList, by simp, Or.inr rfl⟩

theorem not_mem_of_digit_or_sign {c : Char} (hc : c.isDigit = true ∨ c = '-') {others : List Char}
    (hothers : ∀ other ∈ others, ¬ (other.isDigit = true ∨ other = '-')) : c ∉ others :=
  fun hmem => hothers c hmem hc

/-- A number is read where a digit or a minus sign begins a value. -/
theorem readValue_number {c : Char} (hc : c.isDigit = true ∨ c = '-') (depth : Nat)
    (s : List Char) : readValue depth (c :: s) = readNumber (c :: s) := by
  have hne : c ∉ ['n', 't', 'f', '"', '[', '\x7b'] := not_mem_of_digit_or_sign hc (by simp)
  simp only [List.mem_cons, List.not_mem_nil, or_false, not_or] at hne
  unfold readValue
  split <;> simp_all

end TargetConfig.Json
