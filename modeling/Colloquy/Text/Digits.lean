import Colloquy.Text

/-!
# Numbers in digits

Writing: a natural number in as many decimal digits as it needs, or in a fixed number of places;
an integer with its sign; bytes in hexadecimal. Reading: a run of digits as a number, and a whole
text as an integer with an optional sign. Reading a number back from its fixed places gives the
number again, as `ofDigits?_padded` states.
-/

namespace Colloquy.Text

/-- Whether the character is one of `0`–`9`. -/
def isDigit (c : Char) : Bool := '0' ≤ c && c ≤ '9'

/-- The value of a digit. -/
def digitValue (c : Char) : Nat := c.toNat - '0'.toNat

/-- The digit of a value below ten. -/
def digit (n : Nat) : Char := Char.ofNat ('0'.toNat + n % 10)

/-- A natural number in decimal digits. -/
def ofNat (n : Nat) : Text := Nat.toDigits 10 n

/-- An integer in decimal digits, with a minus sign if it is negative. -/
def ofInt : Int → Text
  | .ofNat n => ofNat n
  | .negSucc n => '-' :: ofNat (n + 1)

/-- The last `width` decimal digits of a number. -/
def padded : Nat → Nat → Text
  | 0, _ => []
  | width + 1, n => padded width (n / 10) ++ [digit n]

/-- The value of a run of digits. -/
def valueOf (digits : Text) : Nat := digits.foldl (fun n c => n * 10 + digitValue c) 0

/-- The value of a text that is one or more digits and nothing else. -/
def ofDigits? (text : Text) : Option Nat :=
  if text ≠ [] ∧ text.all isDigit = true then some (valueOf text) else none

/-- The integer that the whole text is: an optional sign and one or more digits. -/
def toInt? : Text → Option Int
  | '-' :: digits => (ofDigits? digits).map fun n => -(n : Int)
  | '+' :: digits => (ofDigits? digits).map fun n => (n : Int)
  | digits => (ofDigits? digits).map fun n => (n : Int)

/-- Whether the integer fits in 64 bits with a sign. -/
def fits64 (n : Int) : Bool := -9223372036854775808 ≤ n && n ≤ 9223372036854775807

/-- The signed 64-bit integer that the whole text is. -/
def toInt64? (text : Text) : Option Int := (toInt? text).filter fits64

/-- The value of a hexadecimal digit of either case. -/
def hexValue? (c : Char) : Option Nat :=
  if isDigit c then some (digitValue c)
  else if 'a' ≤ c ∧ c ≤ 'f' then some (c.toNat - 'a'.toNat + 10)
  else if 'A' ≤ c ∧ c ≤ 'F' then some (c.toNat - 'A'.toNat + 10)
  else none

/-- Two small hexadecimal digits for a byte. -/
def hexByte (byte : UInt8) : Text :=
  [Nat.digitChar (byte.toNat / 16), Nat.digitChar (byte.toNat % 16)]

/-! ### Fixed places -/

@[simp] theorem length_padded (width n : Nat) : (padded width n).length = width := by
  induction width generalizing n with
  | zero => rfl
  | succ width ih => simp [padded, ih]

theorem isDigit_digit (n : Nat) : isDigit (digit n) = true := by
  have h : ∀ m : Fin 10, isDigit (Char.ofNat ('0'.toNat + m)) = true := by decide
  exact h ⟨n % 10, Nat.mod_lt _ (by decide)⟩

theorem digitValue_digit (n : Nat) : digitValue (digit n) = n % 10 := by
  have h : ∀ m : Fin 10, digitValue (Char.ofNat ('0'.toNat + m)) = m := by decide
  exact h ⟨n % 10, Nat.mod_lt _ (by decide)⟩

theorem all_isDigit_padded (width n : Nat) : (padded width n).all isDigit = true := by
  induction width generalizing n with
  | zero => rfl
  | succ width ih => simp [padded, ih, isDigit_digit]

theorem valueOf_append_singleton (a : Text) (c : Char) :
    valueOf (a ++ [c]) = valueOf a * 10 + digitValue c := by
  simp [valueOf, List.foldl_append]

/-- The fixed places of a number have its value, up to what does not fit in them. -/
theorem valueOf_padded (width n : Nat) : valueOf (padded width n) = n % Nat.pow 10 width := by
  induction width generalizing n with
  | zero => simp [padded, valueOf, Nat.mod_one]
  | succ width ih =>
    have hpow : Nat.pow 10 (width + 1) = 10 * Nat.pow 10 width := Nat.mul_comm _ _
    rw [padded, valueOf_append_singleton, ih, digitValue_digit, hpow, Nat.mod_mul]
    omega

/-- A number read back from places that hold it. -/
theorem ofDigits?_padded {width n : Nat} (hw : 0 < width) (hn : n < Nat.pow 10 width) :
    ofDigits? (padded width n) = some n := by
  have hne : padded width n ≠ [] := by
    intro h
    have := length_padded width n
    rw [h] at this
    simp at this
    omega
  rw [ofDigits?, if_pos ⟨hne, all_isDigit_padded width n⟩, valueOf_padded, Nat.mod_eq_of_lt hn]

example : toInt64? "+7" = some 7 ∧ toInt64? "-" = none ∧ toInt64? "1e3" = none := by decide
example : padded 4 9 = "0009".toList := by decide

end Colloquy.Text
