import TargetConfig.Number.Binary64

/-! # The fewest digits that identify a value

A decimal identifies a binary value if it lies among the reals that round to that value: from half
way to the neighbour below to half way to the neighbour above, the ends belonging to the value when
its significand is even. `shortest` tries one digit, then two, and so on, and takes the nearer of
the two decimals around the value on the first grid where one of them identifies it. The caller says
which of the two is taken where both are as near.
-/

namespace TargetConfig.Binary64

/-- A decimal number `digits * 10 ^ exponent`. -/
structure Decimal where
  digits : Nat
  exponent : Int
  deriving DecidableEq, Repr

/-- The quotient that a decimal stands for. -/
def Decimal.ratio (x : Decimal) : Nat × Nat :=
  if 0 ≤ x.exponent then (x.digits * Nat.pow 10 x.exponent.toNat, 1)
  else (x.digits, Nat.pow 10 (-x.exponent).toNat)

/-- Whether the decimal rounds to `m * 2 ^ q`, for `m` not zero. Below a power of two the values lie
twice as dense, so there the lower end is nearer. -/
def identifies (x : Decimal) (m : Nat) (q : Int) : Bool :=
  let narrow := m = Nat.pow 2 52 && q > -1074
  let (num, den) := x.ratio
  let (low, unit) := Binary64.ratio (if narrow then 4 * m - 1 else 4 * m - 2) (q - 2)
  let (high, unit') := Binary64.ratio (4 * m + 2) (q - 2)
  if m % 2 = 0 then low * den ≤ num * unit && num * unit' ≤ high * den
  else low * den < num * unit && num * unit' < high * den

/-- Whether `m * 2 ^ q < 10 ^ k`. -/
def belowTen (m : Nat) (q k : Int) : Bool :=
  let (n, d) := Binary64.ratio m q
  if 0 ≤ k then n < Nat.pow 10 k.toNat * d else n * Nat.pow 10 (-k).toNat < d

/-- The least `k` with `m * 2 ^ q < 10 ^ k`, found from the binary logarithm. -/
def scale (m : Nat) (q : Int) : Int :=
  let guess := (Int.ofNat m.log2 + q) * 30103 / 100000
  ([guess - 1, guess, guess + 1].find? (belowTen m q)).getD (guess + 2)

/-- The decimal of the given grid that identifies the value, if there is one: of two the nearer. -/
def onGrid (tie : Tie) (m : Nat) (q exponent : Int) : Option Decimal :=
  let (n, d) := Binary64.ratio m q
  let (n, d) := if 0 ≤ exponent then (n, d * Nat.pow 10 exponent.toNat)
    else (n * Nat.pow 10 (-exponent).toNat, d)
  let below : Decimal := ⟨n / d, exponent⟩
  let above : Decimal := ⟨n / d + 1, exponent⟩
  match identifies below m q, identifies above m q with
  | true, true => some (if roundDiv tie n d = n / d then below else above)
  | true, false => some below
  | false, true => some above
  | false, false => none

/-- The decimal without zeros at its end. -/
def Decimal.stripped (x : Decimal) : Decimal :=
  let ds := (Nat.toDigits 10 x.digits).reverse
  let zeros := (ds.takeWhile (· = '0')).length
  if x.digits = 0 then x else ⟨x.digits / Nat.pow 10 zeros, x.exponent + zeros⟩

/-- The decimal that equals `m * 2 ^ q`. -/
def exact (m : Nat) (q : Int) : Decimal :=
  if 0 ≤ q then ⟨m * Nat.pow 2 q.toNat, 0⟩ else ⟨m * Nat.pow 5 (-q).toNat, q⟩

/-- The shortest decimal that identifies `m * 2 ^ q`. Should no grid of up to seventeen digits have
one, the exact value is given, never a guess. -/
def shortest (tie : Tie) (m : Nat) (q : Int) : Decimal :=
  if m = 0 then ⟨0, 0⟩
  else
    let k := scale m q
    let grids := (List.range 17).map fun i => k - 1 - Int.ofNat i
    ((grids.findSome? (onGrid tie m q)).getD (exact m q)).stripped

/-! ## Writing

The digits are the fewest that identify the value. A record says which of two such texts is written
and where positional notation ends; beyond it one digit stands before the point, and the exponent
has a sign. Positional notation always has a point with a digit on both sides. -/

/-- How values are written. -/
structure Layout where
  /-- Which of two decimals with the fewest digits is written, if the value lies half way. -/
  tie : Tie
  /-- Which powers of ten of the leading digit are written positionally. -/
  isPositional : Int → Bool

/-- Digits with a point `point` places after the start of the digits, and zeros as needed. -/
def positional (ds : List Char) (point : Int) : List Char :=
  if point ≤ 0 then '0' :: '.' :: List.replicate (-point).toNat '0' ++ ds
  else
    let whole := ds.take point.toNat
    let fraction := ds.drop point.toNat
    whole ++ List.replicate (point.toNat - whole.length) '0' ++ '.' ::
      (if fraction.isEmpty then ['0'] else fraction)

/-- One digit before the point, then the signed exponent. -/
def scientific (ds : List Char) (exponent : Int) : List Char :=
  ds.take 1 ++ (if ds.length ≤ 1 then [] else '.' :: ds.drop 1) ++
    'e' :: (if exponent < 0 then '-' else '+') :: Nat.toDigits 10 exponent.natAbs

def Layout.render (layout : Layout) : Binary64 → String
  | .nan => "NaN"
  | .infinite negative => if negative then "-inf" else "inf"
  | .finite negative m q =>
    let x := shortest layout.tie m q
    let ds := Nat.toDigits 10 x.digits
    let exponent := x.exponent + ds.length - 1
    let body := if m = 0 || layout.isPositional exponent then positional ds (exponent + 1)
      else scientific ds exponent
    String.ofList (if negative then '-' :: body else body)

end TargetConfig.Binary64
