import Colloquy.Text

/-!
# ASCII letter case

Names of commands, activity types and content types are compared without regard to the case of
`A`–`Z` only: every other character stands for itself. `sameLetters` is equality after lowering,
hence an equivalence.
-/

namespace Colloquy.Text

/-- The small letter of `A`–`Z`; any other character unchanged. -/
def lowerAsciiChar (c : Char) : Char :=
  if 'A' ≤ c ∧ c ≤ 'Z' then Char.ofNat (c.toNat + 32) else c

/-- The text with the small letter for each of `A`–`Z`. -/
def lowerAscii (text : Text) : Text := text.map lowerAsciiChar

/-- Equality up to the case of `A`–`Z`. -/
def sameLetters (a b : Text) : Bool := lowerAscii a == lowerAscii b

@[simp] theorem lowerAscii_nil : lowerAscii [] = [] := rfl

@[simp] theorem lowerAscii_cons (c : Char) (cs : Text) :
    lowerAscii (c :: cs) = lowerAsciiChar c :: lowerAscii cs := rfl

@[simp] theorem lowerAscii_append (a b : Text) : lowerAscii (a ++ b) = lowerAscii a ++ lowerAscii b :=
  List.map_append

@[simp] theorem length_lowerAscii (text : Text) : (lowerAscii text).length = text.length :=
  List.length_map _

theorem sameLetters_iff {a b : Text} : sameLetters a b = true ↔ lowerAscii a = lowerAscii b := by
  simp [sameLetters]

@[simp] theorem sameLetters_refl (a : Text) : sameLetters a a = true := by simp [sameLetters]

theorem sameLetters_comm (a b : Text) : sameLetters a b = sameLetters b a := by
  rw [Bool.eq_iff_iff, sameLetters_iff, sameLetters_iff, eq_comm]

theorem sameLetters_trans {a b c : Text} (hab : sameLetters a b = true)
    (hbc : sameLetters b c = true) : sameLetters a c = true := by
  rw [sameLetters_iff] at *
  exact hab.trans hbc

example : sameLetters "EndOfConversation" "endofconversation" = true := by decide
example : sameLetters "\u017feſſion" "session" = false := by decide

end Colloquy.Text
