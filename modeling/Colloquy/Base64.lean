import Colloquy.Text

/-!
# Base64

The standard alphabet with padding: three bytes become four characters, and what is left over
at the end becomes four characters with `=` in the places that carry no bits. `decode?` reads such
a text and no other.
-/

namespace Colloquy.Base64

/-- The character for six bits. -/
def character (sextet : Nat) : Char :=
  if sextet < 26 then Char.ofNat ('A'.toNat + sextet)
  else if sextet < 52 then Char.ofNat ('a'.toNat + (sextet - 26))
  else if sextet < 62 then Char.ofNat ('0'.toNat + (sextet - 52))
  else if sextet = 62 then '+'
  else '/'

/-- The six bits of a character of the alphabet. -/
def sextet? (c : Char) : Option Nat :=
  if 'A' ≤ c ∧ c ≤ 'Z' then some (c.toNat - 'A'.toNat)
  else if 'a' ≤ c ∧ c ≤ 'z' then some (c.toNat - 'a'.toNat + 26)
  else if '0' ≤ c ∧ c ≤ '9' then some (c.toNat - '0'.toNat + 52)
  else if c = '+' then some 62
  else if c = '/' then some 63
  else none

/-- The characters for a list of bytes. -/
def encode : List UInt8 → Text
  | [] => []
  | [a] =>
    [character (a.toNat / 4), character (a.toNat % 4 * 16), '=', '=']
  | [a, b] =>
    [character (a.toNat / 4), character (a.toNat % 4 * 16 + b.toNat / 16),
      character (b.toNat % 16 * 4), '=']
  | a :: b :: c :: rest =>
    character (a.toNat / 4) :: character (a.toNat % 4 * 16 + b.toNat / 16) ::
      character (b.toNat % 16 * 4 + c.toNat / 64) :: character (c.toNat % 64) :: encode rest

/-- The bytes of a padded text. -/
def decode? : Text → Option (List UInt8)
  | [] => some []
  | [p, q, '=', '='] => do
    let x ← sextet? p
    let y ← sextet? q
    guard (y % 16 = 0)
    pure [UInt8.ofNat (x * 4 + y / 16)]
  | [p, q, r, '='] => do
    let x ← sextet? p
    let y ← sextet? q
    let z ← sextet? r
    guard (z % 4 = 0)
    pure [UInt8.ofNat (x * 4 + y / 16), UInt8.ofNat (y % 16 * 16 + z / 4)]
  | p :: q :: r :: s :: rest => do
    let x ← sextet? p
    let y ← sextet? q
    let z ← sextet? r
    let w ← sextet? s
    let tail ← decode? rest
    pure (UInt8.ofNat (x * 4 + y / 16) :: UInt8.ofNat (y % 16 * 16 + z / 4) ::
      UInt8.ofNat (z % 4 * 64 + w) :: tail)
  | _ => none

/-- Every group of up to three bytes takes four characters. -/
theorem length_encode (bytes : List UInt8) : (encode bytes).length = (bytes.length + 2) / 3 * 4 := by
  fun_induction encode bytes with
  | case1 => rfl
  | case2 => simp
  | case3 => simp
  | case4 a b c rest ih =>
    simp only [List.length_cons, ih]
    omega

/-- Each value below 64 has its character. -/
theorem sextet?_character {n : Nat} (h : n < 64) : sextet? (character n) = some n := by
  have all : ∀ m : Fin 64, sextet? (character m) = some m.val := by decide
  exact all ⟨n, h⟩

example : encode [0x89, 0x50, 0x4E, 0x47] = "iVBORw==".toList := by decide
example : decode? "iVBORw==" = some [0x89, 0x50, 0x4E, 0x47] := by decide
example : decode? "iVBORx==" = none := by decide

end Colloquy.Base64
