import TargetConfig.Json.Value
import TargetConfig.Text
import TargetConfig.Text.Reader

/-! # Reading JSON

`Json.parse` reads one value with white space around it. Values may be nested 127 deep. A whole
number that fits 64 bits, signed or unsigned, is an integer; any other number is a 64-bit
floating-point value, and so is `-0`.
-/

namespace TargetConfig.Json

open Text

/-- Passes over spaces, tabs and line ends. -/
def skipSpace (s : List Char) : List Char :=
  s.dropWhile fun c => c = ' ' || c = '\t' || c = '\n' || c = '\r'

/-- The character that a one-letter escape stands for. -/
def escaped? : Char → Option Char
  | '"' => some '"'
  | '\\' => some '\\'
  | '/' => some '/'
  | 'b' => some '\x08'
  | 'f' => some '\x0c'
  | 'n' => some '\n'
  | 'r' => some '\r'
  | 't' => some '\t'
  | _ => none

/-- The code point of two surrogate halves. -/
def joinSurrogates? (high low : Nat) : Option Char :=
  if 0xD800 ≤ high && high < 0xDC00 && 0xDC00 ≤ low && low < 0xE000 then
    charOfCode? (0x10000 + (high - 0xD800) * 0x400 + (low - 0xDC00))
  else none

/-- Reads the characters of a string up to and with the closing quote. -/
def stringBody : Reader (List Char)
  | [] => none
  | '"' :: s => some ([], s)
  | '\\' :: 'u' :: a :: b :: c :: d :: '\\' :: 'u' :: e :: f :: g :: h :: s =>
    match hexNumber? [a, b, c, d], hexNumber? [e, f, g, h] with
    | some m, some n =>
      match joinSurrogates? m n, charOfCode? m with
      | some x, _ => (stringBody s).map fun r => (x :: r.1, r.2)
      | none, some x =>
        (stringBody ('\\' :: 'u' :: e :: f :: g :: h :: s)).map fun r => (x :: r.1, r.2)
      | none, none => none
    | _, _ => none
  | '\\' :: 'u' :: a :: b :: c :: d :: s =>
    match (hexNumber? [a, b, c, d]).bind charOfCode? with
    | some x => (stringBody s).map fun r => (x :: r.1, r.2)
    | none => none
  | '\\' :: c :: s =>
    match escaped? c with
    | some x => (stringBody s).map fun r => (x :: r.1, r.2)
    | none => none
  | c :: s =>
    if c = '\\' || c.toNat < 0x20 then none
    else (stringBody s).map fun r => (c :: r.1, r.2)

/-- The number that decimal digits write. -/
def decimalNumber (ds : List Char) : Nat :=
  ds.foldl (fun n d => 10 * n + (d.toNat - '0'.toNat)) 0

/-- The first digits whose number is below `2 ^ 64`, and how many digits are left over. -/
def significandDigits (ds : List Char) : Nat × Nat :=
  ds.foldl (fun (n, dropped) d =>
    let next := 10 * n + (d.toNat - '0'.toNat)
    if dropped = 0 && next < Nat.pow 2 64 then (next, 0) else (n, dropped + 1)) (0, 0)

/-- A decimal number as a floating-point value. The significand, cut to 64 bits, is rounded first
and then multiplied or divided by a rounded power of ten, so the result may differ from the
nearest value in its last bit. A value that is too large is refused. -/
def floatOf (negative : Bool) (whole fraction : List Char) (exponent : Int) : Option Binary64 :=
  let (n, dropped) := significandDigits (whole ++ fraction)
  let keptFraction := fraction.length - dropped
  let extraWhole := dropped - fraction.length
  let e : Int := exponent - keptFraction + extraWhole
  let start := Binary64.ofRatio negative n 1
  if n = 0 then some start
  else
    let value :=
      if e > 308 then Binary64.infinite negative
      else if 0 ≤ e then start.timesTen e.toNat
      else if -308 ≤ e then start.overTen (-e).toNat
      else if -616 ≤ e then (start.overTen 308).overTen (-e - 308).toNat
      else Binary64.finite negative 0 (-1074)
    if value.isInfinite then none else some value

def readNumber : Reader Json := fun s =>
  let negative := s.head? = some '-'
  let s := if negative then s.drop 1 else s
  let (whole, s) := s.span (·.isDigit)
  let leadingZero := whole.head? = some '0' && whole.length > 1
  if whole.isEmpty || leadingZero then none
  else
    let point := s.head? = some '.'
    let (fraction, s) := if point then (s.drop 1).span (·.isDigit) else ([], s)
    if point && fraction.isEmpty then none
    else
      let power := s.head? = some 'e' || s.head? = some 'E'
      let s := if power then s.drop 1 else s
      let minus := power && s.head? = some '-'
      let s := if power && (minus || s.head? = some '+') then s.drop 1 else s
      let (size, s) := if power then s.span (·.isDigit) else ([], s)
      if power && size.isEmpty then none
      else if point || power then
        let exponent : Int := if minus then -Int.ofNat (decimalNumber size) else decimalNumber size
        (floatOf negative whole fraction exponent).map fun x => (number x, s)
      else
        let n := decimalNumber whole
        if negative && 0 < n && n ≤ Nat.pow 2 63 then some (integer (-n), s)
        else if !negative && n < Nat.pow 2 64 then some (integer n, s)
        else (floatOf negative whole [] 0).map fun x => (number x, s)

/-- Reads a string with its opening quote. -/
def readString : Reader String
  | '"' :: s => (stringBody s).map fun r => (String.ofList r.1, r.2)
  | _ => none

/-- Reads a key, a colon and a value, with white space before each of them. -/
def readEntry (value : Reader Json) : Reader (String × Json) := fun s =>
  match readString (skipSpace s) with
  | none => none
  | some (key, s) =>
    match skipSpace s with
    | ':' :: s => (value (skipSpace s)).map fun r => ((key, r.1), r.2)
    | _ => none

/-- Reads a value that is nested at most `depth` deep. -/
def readValue : Nat → Reader Json
  | _, 'n' :: 'u' :: 'l' :: 'l' :: s => some (null, s)
  | _, 't' :: 'r' :: 'u' :: 'e' :: s => some (boolean true, s)
  | _, 'f' :: 'a' :: 'l' :: 's' :: 'e' :: s => some (boolean false, s)
  | _, '"' :: s => (readString ('"' :: s)).map fun r => (string r.1, r.2)
  | depth + 1, '[' :: s =>
    (Reader.list skipSpace ']' false (readValue depth) s).map fun r => (array r.1, r.2)
  | depth + 1, '\x7b' :: s =>
    (Reader.list skipSpace '\x7d' false (readEntry (readValue depth)) s).map
      fun r => (object r.1, r.2)
  | _, s => readNumber s

/-- The value that a text writes, if it writes exactly one. -/
def parse (text : String) : Option Json :=
  match readValue 127 (skipSpace text.toList) with
  | some (value, s) => if (skipSpace s).isEmpty then some value else none
  | none => none

end TargetConfig.Json
