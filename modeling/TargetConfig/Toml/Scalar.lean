import TargetConfig.Text
import TargetConfig.Text.Reader
import TargetConfig.Toml.Value

/-! # TOML numbers, dates and times

Each reader takes the longest text of its kind. What may follow a value is checked by the caller, so
a number with something glued to it is refused there.
-/

namespace TargetConfig.Toml

open Text

/-! ## Numbers -/

/-- Takes digits, with single underscores allowed between digits. The digits are given without the
underscores. -/
def moreDigits (isDigit : Char → Bool) : List Char → List Char × List Char
  | [] => ([], [])
  | '_' :: d :: s =>
    if isDigit d then (d :: (moreDigits isDigit s).1, (moreDigits isDigit s).2)
    else ([], '_' :: d :: s)
  | d :: s =>
    if isDigit d then (d :: (moreDigits isDigit s).1, (moreDigits isDigit s).2) else ([], d :: s)

/-- Reads at least one digit. -/
def readDigits (isDigit : Char → Bool) : Reader (List Char)
  | [] => none
  | d :: s => if isDigit d then some (moreDigits isDigit (d :: s)) else none

/-- The number that digits of a base write. -/
def digitsValue (base : Nat) (ds : List Char) : Nat :=
  ds.foldl (fun n d => base * n + (hexValue? d).getD 0) 0

/-- Takes a sign, and tells whether it was a minus. -/
def takeSign : List Char → Bool × List Char
  | '+' :: s => (false, s)
  | '-' :: s => (true, s)
  | s => (false, s)

/-- Reads decimal digits; a zero at the start stands alone. -/
def readWhole : Reader (List Char)
  | '0' :: s => some (['0'], s)
  | s => readDigits Char.isDigit s

/-- An integer, if it fits 64 bits with a sign. -/
def integer? (n : Int) : Option Value :=
  if -Int.pow 2 63 ≤ n && n < Int.pow 2 63 then some (.integer n) else none

/-- Reads the digits of an unsigned number after the mark of its base. -/
def readBased (base : Nat) (isDigit : Char → Bool) : Reader Value := fun s =>
  (readDigits isDigit s).bind fun (ds, rest) =>
    (integer? (digitsValue base ds)).map fun v => (v, rest)

/-- Reads an integer: decimal with an optional sign, or without a sign in base 16, 8 or 2. -/
def readInteger : Reader Value
  | '0' :: 'x' :: s => readBased 16 (fun c => (hexValue? c).isSome) s
  | '0' :: 'o' :: s => readBased 8 (fun c => '0' ≤ c && c ≤ '7') s
  | '0' :: 'b' :: s => readBased 2 (fun c => c = '0' || c = '1') s
  | s =>
    let (negative, s) := takeSign s
    (readWhole s).bind fun (ds, rest) =>
      let n : Int := digitsValue 10 ds
      (integer? (if negative then -n else n)).map fun v => (v, rest)

/-- Reads an exponent with its mark, if one stands here. -/
def readExponent : List Char → Option (Int × List Char)
  | c :: s =>
    if c = 'e' || c = 'E' then
      let (negative, s) := takeSign s
      (readDigits Char.isDigit s).map fun (ds, rest) =>
        let n : Int := digitsValue 10 ds
        (if negative then -n else n, rest)
    else none
  | [] => none

/-- A floating-point value, unless it is too large. One too small in the negative direction becomes
the negative infinity. -/
def float? (negative : Bool) (ds : List Char) (exponent : Int) : Option Value :=
  let x := Binary64.ofDecimal negative (digitsValue 10 ds) exponent
  if x = .infinite false then none else some (.float x)

/-- Reads a floating-point value: `inf` and `nan` with an optional sign, or decimal digits with a
fraction, an exponent or both. -/
def readFloat : Reader Value := fun s =>
  let (negative, s) := takeSign s
  match s with
  | 'i' :: 'n' :: 'f' :: rest => some (.float (.infinite negative), rest)
  | 'n' :: 'a' :: 'n' :: rest => some (.float .nan, rest)
  | s =>
    (readWhole s).bind fun (whole, rest) =>
      match rest with
      | '.' :: rest =>
        (readDigits Char.isDigit rest).bind fun (fraction, rest) =>
          let (exponent, rest) := (readExponent rest).getD (0, rest)
          (float? negative (whole ++ fraction) (exponent - fraction.length)).map fun v => (v, rest)
      | rest =>
        (readExponent rest).bind fun (exponent, rest) =>
          (float? negative whole exponent).map fun v => (v, rest)

/-! ## Dates and times -/

/-- Reads exactly `count` digits. -/
def readCount (count : Nat) : Reader Nat := fun s =>
  let ds := s.take count
  if ds.length = count && ds.all Char.isDigit then some (digitsValue 10 ds, s.drop count) else none

/-- Passes over one given character. -/
def readMark (mark : Char) : List Char → Option (List Char)
  | [] => none
  | c :: s => if c = mark then some s else none

/-- The number of days in a month, where each fourth year is longer, but of the full centuries only
each fourth one. -/
def daysInMonth (year month : Nat) : Nat :=
  if month = 2 then
    if year % 4 = 0 && (year % 100 ≠ 0 || year % 400 = 0) then 29 else 28
  else if month = 4 || month = 6 || month = 9 || month = 11 then 30
  else 31

/-- Reads a day of the calendar that exists. -/
def readDate : Reader Date := fun s => do
  let (year, s) ← readCount 4 s
  let s ← readMark '-' s
  let (month, s) ← readCount 2 s
  let s ← readMark '-' s
  let (day, s) ← readCount 2 s
  if 1 ≤ month && month ≤ 12 && 1 ≤ day && day ≤ daysInMonth year month then
    return (⟨year, month, day⟩, s)
  else none

/-- Reads the fraction of a second with its point, if one stands here. -/
def takeFraction : List Char → List Char × List Char
  | '.' :: d :: s => if d.isDigit then (d :: s).span Char.isDigit else ([], '.' :: d :: s)
  | s => ([], s)

/-- Reads a time of day; a second numbered 60 is allowed, and the seconds must be there. -/
def readTime : Reader Time := fun s => do
  let (hour, s) ← readCount 2 s
  let s ← readMark ':' s
  let (minute, s) ← readCount 2 s
  let s ← readMark ':' s
  let (second, s) ← readCount 2 s
  let (fraction, s) := takeFraction s
  if hour ≤ 23 && minute ≤ 59 && second ≤ 60 then return (⟨hour, minute, second, fraction⟩, s)
  else none

/-- Reads an offset: `Z`, or a sign with hours and minutes. -/
def readOffset : Reader Int
  | 'Z' :: s => some (0, s)
  | 'z' :: s => some (0, s)
  | c :: s => do
    if c = '+' || c = '-' then
      let (hour, s) ← readCount 2 s
      let s ← readMark ':' s
      let (minute, s) ← readCount 2 s
      if hour ≤ 23 && minute ≤ 59 then
        let minutes : Int := hour * 60 + minute
        return (if c = '-' then -minutes else minutes, s)
      else none
    else none
  | [] => none

/-- Reads what follows a date: a time after `T`, `t` or a space, and an offset after the time. -/
def readTimeOf (date : Date) : List Char → Datetime × List Char
  | c :: s =>
    if c = 'T' || c = 't' || c = ' ' then
      match readTime s with
      | some (time, rest) =>
        match readOffset rest with
        | some (offset, rest) => (⟨some date, some time, some offset⟩, rest)
        | none => (⟨some date, some time, none⟩, rest)
      | none => (⟨some date, none, none⟩, c :: s)
    else (⟨some date, none, none⟩, c :: s)
  | [] => (⟨some date, none, none⟩, [])

/-- Reads a date, a time of day, or a date with a time. -/
def readDatetime : Reader Value := fun s =>
  match readDate s with
  | some (date, rest) =>
    let (value, rest) := readTimeOf date rest
    some (.datetime value, rest)
  | none => (readTime s).map fun (time, rest) => (.datetime ⟨none, some time, none⟩, rest)

end TargetConfig.Toml
