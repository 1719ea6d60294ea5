/-!
# Double precision numbers

The finite numbers of the binary64 format as exact values: a sign, a significand and a power of
two. Every operation is one exact ratio of natural numbers followed by one rounding to the nearest
number of the format, ties to the even significand.

`ofDecimal?` is the reading of a decimal by at most one scaling step in each of a few stages: the
digits are rounded to a double first, and the power of ten, itself a double, is multiplied or
divided in. The result can be a neighbour of the nearest double when there are many digits.
-/

namespace Colloquy

/-- A finite binary64 number, `±significand · 2 ^ exponent`. -/
structure Binary64 where
  negative : Bool
  significand : Nat
  exponent : Int
deriving DecidableEq, Repr

namespace Binary64

/-- The quotient rounded to the nearest natural number, a half to the even one. -/
def roundDiv (num den : Nat) : Nat :=
  let q := num / den
  let r := num % den
  if 2 * r < den then q else if den < 2 * r then q + 1 else q + q % 2

/-- The numerator of `2 ^ e`. -/
def twoNum (e : Int) : Nat := Nat.pow 2 e.toNat

/-- The denominator of `2 ^ e`. -/
def twoDen (e : Int) : Nat := Nat.pow 2 (-e).toNat

/-- The greatest `e` with `2 ^ e` at most the positive ratio. -/
def floorLog2 (num den : Nat) : Int :=
  let e := (Nat.log2 num : Int) - Nat.log2 den
  if den * twoNum e ≤ num * twoDen e then e else e - 1

/-- The least significand above the subnormal range, `2 ^ 52`. -/
def leastNormal : Nat := 4503599627370496

/-- The significand and the exponent of the double nearest to a ratio, if one is in range. -/
def nearest? (num den : Nat) : Option (Nat × Int) :=
  if num = 0 then some (0, -1074)
  else
    let e := max (floorLog2 num den - 52) (-1074)
    let m := roundDiv (num * twoDen e) (den * twoNum e)
    let (m, e) := if m = 2 * leastNormal then (leastNormal, e + 1) else (m, e)
    if 971 < e then none else some (m, e)

/-- The double nearest to `±num / den`. -/
def ofRatio? (negative : Bool) (num den : Nat) : Option Binary64 :=
  (nearest? num den).map fun (m, e) => ⟨negative, m, e⟩

/-- Zero with a sign. -/
def zero (negative : Bool) : Binary64 := ⟨negative, 0, -1074⟩

/-- The numerator of the magnitude. -/
def num (x : Binary64) : Nat := x.significand * twoNum x.exponent

/-- The denominator of the magnitude. -/
def den (x : Binary64) : Nat := twoDen x.exponent

/-- The rounded product with `10 ^ n`, the power rounded first. -/
def scaleUp? (x : Binary64) (n : Nat) : Option Binary64 := do
  let power ← ofRatio? false (Nat.pow 10 n) 1
  ofRatio? x.negative (x.num * power.num) (x.den * power.den)

/-- The rounded quotient by `10 ^ n`, the power rounded first. -/
def scaleDown? (x : Binary64) (n : Nat) : Option Binary64 := do
  let power ← ofRatio? false (Nat.pow 10 n) 1
  ofRatio? x.negative (x.num * power.den) (x.den * power.num)

/-- The greatest power of ten below the range limit of the format. -/
def greatestPower : Nat := 308

/-- The double read from `±digits · 10 ^ exponent`, if it is in range. -/
def ofDecimal? (negative : Bool) (digits : Nat) (exponent : Int) : Option Binary64 := do
  let x ← ofRatio? negative digits 1
  let n := exponent.natAbs
  if 0 ≤ exponent then
    if n ≤ greatestPower then x.scaleUp? n
    else if digits = 0 then some x
    else none
  else if n ≤ greatestPower then x.scaleDown? n
  else if n ≤ 2 * greatestPower then
    (x.scaleDown? greatestPower).bind fun y => y.scaleDown? (n - greatestPower)
  else some (zero negative)

example : ofDecimal? false 1 0 = some ⟨false, 2 ^ 52, -52⟩ := by decide +kernel
example : ofDecimal? true 5 (-324) = some ⟨true, 1, -1074⟩ := by decide +kernel
example : ofDecimal? false 1 400 = none := by decide +kernel

end Binary64

end Colloquy
