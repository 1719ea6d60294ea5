import Colloquy.Binary64
import Colloquy.Text.Digits

/-!
# Shortest decimals

The decimal with the fewest digits that lies among the real numbers rounding to a double, and of
those the nearest, a tie going to the even one. The numbers that round to a double reach half way
to its neighbours, the ends included when the significand is even; below a power of two the lower
neighbour is half as far.

A grid of decimals holds such a number only if one of the double's two neighbours on the grid is
one, so each grid is settled by two comparisons of natural numbers, from the coarsest grid down.

`write` is the written form: positional from `0.00001` up to sixteen places before the point,
always with a point, and with an exponent elsewhere.
-/

namespace Colloquy.Binary64

/-- The numerator and the denominator of `10 ^ k / 2 ^ e`. -/
def gridRatio (k e : Int) : Nat × Nat :=
  (Nat.pow 10 k.toNat * twoDen e, Nat.pow 10 (-k).toNat * twoNum e)

/-- The decimal on the grid of `10 ^ k` that rounds to the double, if there is one. -/
def onGrid? (x : Binary64) (k : Int) : Option Nat :=
  let (a, b) := gridRatio k (x.exponent - 2)
  let value := 4 * x.significand * b
  let low := value - (if x.significand = leastNormal ∧ -1074 < x.exponent then b else 2 * b)
  let high := value + 2 * b
  let even := x.significand % 2 = 0
  let hit (c : Nat) : Bool :=
    c ≠ 0 && (if even then low ≤ c * a && c * a ≤ high else low < c * a && c * a < high)
  let below := value / a
  match hit below, hit (below + 1) with
  | true, true =>
    let middle := (2 * below + 1) * a
    if 2 * value < middle then some below
    else if middle < 2 * value then some (below + 1)
    else some (below + below % 2)
  | true, false => some below
  | false, true => some (below + 1)
  | false, false => none

/-- The first hit on one of `count` grids, from that of `10 ^ k` down. -/
def search (x : Binary64) : Nat → Int → Nat × Int
  | 0, k => (0, k)
  | count + 1, k =>
    match x.onGrid? k with
    | some d => (d, k)
    | none => search x count (k - 1)

/-- The shortest decimal of a double that is not zero: digits and a power of ten. -/
def shortest (x : Binary64) : Nat × Int :=
  let log2 := (Nat.log2 x.significand : Int) + x.exponent
  search x 24 (log2 * 30103 / 100000 + 2)

/-- Moves the zeros at the end of the digits into the power of ten. -/
def dropZeros : Nat → Nat × Int → Nat × Int
  | 0, decimal => decimal
  | fuel + 1, (d, k) => if d ≠ 0 ∧ d % 10 = 0 then dropZeros fuel (d / 10, k + 1) else (d, k)

/-- The written form of a magnitude, from its digits and the power of ten of the last one. -/
def place (digits : Text) (k : Int) : Text :=
  let length : Int := digits.length
  let point := length + k
  if 0 ≤ k ∧ point ≤ 16 then Text.concat [digits, List.replicate k.toNat '0', ".0"]
  else if 0 < point ∧ point ≤ 16 then
    Text.concat [digits.take point.toNat, ".", digits.drop point.toNat]
  else if -5 < point ∧ point ≤ 0 then
    Text.concat ["0.", List.replicate (-point).toNat '0', digits]
  else
    let tail := digits.drop 1
    Text.concat [digits.take 1, if tail = [] then [] else '.' :: tail, "e", Text.ofInt (point - 1)]

/-- The written form of a double. -/
def write (x : Binary64) : Text :=
  let magnitude : Text :=
    if x.significand = 0 then "0.0"
    else
      let (d, k) := dropZeros 24 x.shortest
      place (Text.ofNat d) k
  if x.negative then '-' :: magnitude else magnitude

example : (ofDecimal? false 1 (-1)).map write = some "0.1".toList := by decide +kernel
example : (ofDecimal? true 15 300).map write = some "-1.5e301".toList := by decide +kernel
example : (ofDecimal? false 1 23).map write = some "1e23".toList := by decide +kernel
example : (ofDecimal? false 5 (-324)).map write = some "5e-324".toList := by decide +kernel
example : (ofDecimal? false 100 0).map write = some "100.0".toList := by decide +kernel
example : (ofDecimal? false 12 (-6)).map write = some "0.000012".toList := by decide +kernel

end Colloquy.Binary64
