import Mathlib.Data.Option.Basic
import Colloquy.Base64

/-!
# Data that is read back

A group of three bytes becomes four characters of the alphabet, and a shorter one at the end becomes
as many as it needs, with padding. Each kind of group is read back by itself, and so is the whole
text (`decode?_encode`).
-/

namespace Colloquy.Base64

/-! ### Groups -/

/-- The padding is no character of the alphabet. -/
theorem character_ne_padding {n : Nat} (h : n < 64) : character n ≠ '=' := by
  have all : ∀ m : Fin 64, character m ≠ '=' := by decide
  exact all ⟨n, h⟩

theorem decode?_two {x y : Nat} (hx : x < 64) (hy : y < 64) (hzero : y % 16 = 0) :
    decode? [character x, character y, '=', '='] = some [UInt8.ofNat (x * 4 + y / 16)] := by
  have hguard := (Option.guard_eq_some' ()).2 hzero
  simp [decode?, sextet?_character hx, sextet?_character hy, hguard]

theorem decode?_three {x y z : Nat} (hx : x < 64) (hy : y < 64) (hz : z < 64) (hzero : z % 4 = 0) :
    decode? [character x, character y, character z, '='] =
      some [UInt8.ofNat (x * 4 + y / 16), UInt8.ofNat (y % 16 * 16 + z / 4)] := by
  have hne := character_ne_padding hz
  have hguard := (Option.guard_eq_some' ()).2 hzero
  rw [decode?]
  · simp [sextet?_character hx, sextet?_character hy, sextet?_character hz, hguard]
  · simpa using hne

theorem decode?_four {x y z w : Nat} (hx : x < 64) (hy : y < 64) (hz : z < 64) (hw : w < 64)
    (rest : Text) :
    decode? (character x :: character y :: character z :: character w :: rest) =
      (decode? rest).map fun tail => UInt8.ofNat (x * 4 + y / 16) ::
        UInt8.ofNat (y % 16 * 16 + z / 4) :: UInt8.ofNat (z % 4 * 64 + w) :: tail := by
  have hne := character_ne_padding hw
  rw [decode?]
  · simp [sextet?_character hx, sextet?_character hy, sextet?_character hz, sextet?_character hw]
    cases decode? rest <;> rfl
  · simp [hne]
  · simp [hne]

/-! ### Texts -/

/-- Writing, then reading. -/
theorem decode?_encode (bytes : List UInt8) : decode? (encode bytes) = some bytes := by
  fun_induction encode bytes with
  | case1 => rfl
  | case2 a =>
    have ha := a.toNat_lt
    have hfirst : a.toNat / 4 * 4 + a.toNat % 4 * 16 / 16 = a.toNat := by omega
    rw [decode?_two (by omega) (by omega) (by omega), hfirst, UInt8.ofNat_toNat]
  | case3 a b =>
    have ha := a.toNat_lt
    have hb := b.toNat_lt
    have hfirst : a.toNat / 4 * 4 + (a.toNat % 4 * 16 + b.toNat / 16) / 16 = a.toNat := by omega
    have hsecond :
        (a.toNat % 4 * 16 + b.toNat / 16) % 16 * 16 + b.toNat % 16 * 4 / 4 = b.toNat := by
      omega
    rw [decode?_three (by omega) (by omega) (by omega) (by omega), hfirst, hsecond,
      UInt8.ofNat_toNat, UInt8.ofNat_toNat]
  | case4 a b c rest ih =>
    have ha := a.toNat_lt
    have hb := b.toNat_lt
    have hc := c.toNat_lt
    have hfirst : a.toNat / 4 * 4 + (a.toNat % 4 * 16 + b.toNat / 16) / 16 = a.toNat := by omega
    have hsecond : (a.toNat % 4 * 16 + b.toNat / 16) % 16 * 16 +
        (b.toNat % 16 * 4 + c.toNat / 64) / 4 = b.toNat := by
      omega
    have hthird : (b.toNat % 16 * 4 + c.toNat / 64) % 4 * 64 + c.toNat % 64 = c.toNat := by omega
    rw [decode?_four (by omega) (by omega) (by omega) (by omega), ih, hfirst, hsecond, hthird,
      UInt8.ofNat_toNat, UInt8.ofNat_toNat, UInt8.ofNat_toNat]
    rfl

end Colloquy.Base64
