/-! # Binary floating-point values of 64 bits

A finite value is a significand below `2 ^ 53` times a power of two from `2 ^ -1074` to `2 ^ 971`,
with a sign, so that there are two zeros. Values are made from exact quotients of natural numbers
by one rounding to the nearest, ties to the even significand. No machine arithmetic is involved.
-/

namespace TargetConfig

/-- A 64-bit floating-point value. In a finite one either the significand is at least `2 ^ 52` or
the exponent is `-1074`. -/
inductive Binary64 where
  | nan
  | infinite (negative : Bool)
  | finite (negative : Bool) (significand : Nat) (exponent : Int)
  deriving DecidableEq, Repr

namespace Binary64

/-- Which of two neighbours a half goes to. -/
inductive Tie where
  | toEven
  | up
  deriving DecidableEq, Repr

/-- The quotient rounded to the nearest natural number. -/
def roundDiv (tie : Tie) (num den : Nat) : Nat :=
  let q := num / den
  let r := num % den
  if 2 * r < den || (2 * r == den && tie = .toEven && q % 2 == 0) then q else q + 1

/-- `num / den / 2 ^ exponent`, as a quotient of natural numbers. -/
def shifted (num den : Nat) (exponent : Int) : Nat × Nat :=
  if 0 ≤ exponent then (num, den * Nat.pow 2 exponent.toNat)
  else (num * Nat.pow 2 (-exponent).toNat, den)

/-- The exponent at which the quotient has 53 significant binary digits, but at least `-1074`. -/
def exponentFor (num den : Nat) : Int :=
  let guess : Int := Int.ofNat num.log2 - Int.ofNat den.log2 - 52
  let (n, d) := shifted num den guess
  max (if n / d < Nat.pow 2 52 then guess - 1 else guess) (-1074)

/-- The value nearest to `num / den`, with the given sign. -/
def ofRatio (negative : Bool) (num den : Nat) : Binary64 :=
  if num = 0 then finite negative 0 (-1074)
  else
    let exponent := exponentFor num den
    let (n, d) := shifted num den exponent
    let m := roundDiv .toEven n d
    let (m, exponent) := if m = Nat.pow 2 53 then (Nat.pow 2 52, exponent + 1) else (m, exponent)
    if exponent > 971 then infinite negative else finite negative m exponent

/-- The value nearest to `digits * 10 ^ exponent`. Exponents far outside the range of the format
are settled without computing the power. -/
def ofDecimal (negative : Bool) (digits : Nat) (exponent : Int) : Binary64 :=
  let magnitude : Int := Int.ofNat (Nat.toDigits 10 digits).length + exponent
  if digits = 0 then finite negative 0 (-1074)
  else if magnitude > 310 then infinite negative
  else if magnitude < -330 then finite negative 0 (-1074)
  else if 0 ≤ exponent then ofRatio negative (digits * Nat.pow 10 exponent.toNat) 1
  else ofRatio negative digits (Nat.pow 10 (-exponent).toNat)

/-- The magnitude of a finite value as a quotient. -/
def ratio (significand : Nat) (exponent : Int) : Nat × Nat :=
  if 0 ≤ exponent then (significand * Nat.pow 2 exponent.toNat, 1)
  else (significand, Nat.pow 2 (-exponent).toNat)

/-- The product of a magnitude with a power of ten, each rounded to 64 bits. -/
def timesTen (x : Binary64) (power : Nat) : Binary64 :=
  match x, ofRatio false (Nat.pow 10 power) 1 with
  | finite s m q, finite _ m' q' =>
    let (n, d) := ratio m q
    let (n', d') := ratio m' q'
    ofRatio s (n * n') (d * d')
  | x, _ => x

/-- The quotient of a magnitude by a power of ten, each rounded to 64 bits. -/
def overTen (x : Binary64) (power : Nat) : Binary64 :=
  match x, ofRatio false (Nat.pow 10 power) 1 with
  | finite s m q, finite _ m' q' =>
    let (n, d) := ratio m q
    let (n', d') := ratio m' q'
    ofRatio s (n * d') (d * n')
  | x, _ => x

/-- Whether the value is one of the two infinities. -/
def isInfinite : Binary64 → Bool
  | infinite _ => true
  | _ => false

end Binary64

end TargetConfig
