import TargetConfig.Text
import TargetConfig.Text.Reader

/-! # Reading back what was written

Four written digits are read back as the number they write, in whichever case they are put. A list
between brackets is read item by item, with one lemma for each way in which the text can go on after
an item: with the closing bracket, with a comma in front of it, or with a comma and another item.
-/

namespace TargetConfig.Text

/-! ## Digits -/

theorem hexValue?_digitChar : ∀ d < 16, hexValue? (Nat.digitChar d) = some d := by
  decide

theorem hexValue?_toUpper_digitChar :
    ∀ d < 16, hexValue? (Nat.digitChar d).toUpper = some d := by
  decide

/-- Four digits write a number below 65536, also after a change that keeps their values. -/
theorem hexNumber?_map_hexFour {change : Char → Char}
    (hchange : ∀ d < 16, hexValue? (change (Nat.digitChar d)) = some d) {n : Nat}
    (hn : n < 65536) : hexNumber? ((hexFour n).map change) = some n := by
  have hdigit : ∀ k, hexValue? (change (Nat.digitChar (k % 16))) = some (k % 16) := by
    intro k
    exact hchange _ (Nat.mod_lt _ (by decide))
  simp only [hexFour, List.map_cons, List.map_nil, hexNumber?, List.foldlM_cons, List.foldlM_nil,
    hdigit, Option.map_some, Option.bind_eq_bind, Option.bind_some, Option.pure_def,
    Option.some.injEq]
  omega

theorem hexNumber?_hexFour {n : Nat} (hn : n < 65536) : hexNumber? (hexFour n) = some n := by
  rw [← List.map_id (hexFour n)]
  exact hexNumber?_map_hexFour hexValue?_digitChar hn

theorem charOfCode?_toNat (c : Char) : charOfCode? c.toNat = some c := by
  have hvalid : c.toNat.isValidChar := c.valid
  simp [charOfCode?, hvalid]

/-! ## Lists -/

namespace Reader

variable {α : Type} {skip : List Char → List Char} {close : Char} {trailing : Bool}
  {item : Reader α} {s rest after : List Char} {a : α}

theorem list_of_close (hclose : skip s = close :: after) :
    list skip close trailing item s = some ([], after) := by
  rw [list, hclose]
  exact if_pos rfl

theorem list_of_item {c : Char} (hskip : skip s = c :: after) (hc : c ≠ close) :
    list skip close trailing item s = items skip close trailing item s := by
  rw [list, hskip]
  exact if_neg hc

theorem items_last (hitem : item (skip s) = some (a, rest)) (hclose : skip rest = close :: after) :
    items skip close trailing item s = some ([a], after) := by
  rw [items, hitem]
  dsimp only
  rw [hclose]
  exact if_pos rfl

theorem items_trailing {between : List Char} (hne : close ≠ ',')
    (hitem : item (skip s) = some (a, rest)) (hcomma : skip rest = ',' :: between)
    (hclose : skip between = close :: after) :
    items skip close true item s = some ([a], after) := by
  rw [items, hitem]
  dsimp only
  rw [hcomma]
  simp [hne.symm, hclose]

theorem items_next {next : Char} {between : List Char} (hne : close ≠ ',')
    (hitem : item (skip s) = some (a, rest)) (hcomma : skip rest = ',' :: between)
    (hnext : skip between = next :: after) (hopen : next ≠ close)
    (hlength : between.length < s.length) :
    items skip close trailing item s =
      (items skip close trailing item between).map fun r => (a :: r.1, r.2) := by
  rw [items, hitem]
  dsimp only
  rw [hcomma]
  simp [hne.symm, hnext, hopen, hlength]

end Reader

end TargetConfig.Text
