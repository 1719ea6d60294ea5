import Mathlib.Data.List.Induction
import Mathlib.Data.Nat.Notation
import Mathlib.Tactic.Ring
import Colloquy.Text.Digits

/-!
# Digits of numbers

A number in decimal digits is a run of digits, without a zero in front unless it is zero, and its
value is the number (`valueOf_ofNat`). A run of digits ends where the text behind it starts with
no digit, and zeros at its end are a power of ten.
-/

namespace Colloquy.Text

/-! ### Numbers without a sign -/

theorem isDigit_eq (c : Char) : isDigit c = c.isDigit := by
  rw [Bool.eq_iff_iff, isDigit, Char.isDigit]
  simp [Char.le_def]

theorem isDigit_of_mem_ofNat {n : Nat} {c : Char} (h : c ∈ ofNat n) : isDigit c = true := by
  rw [isDigit_eq]
  exact Nat.isDigit_of_mem_toDigits (by decide) (by decide) h

theorem ofNat_ne_nil (n : Nat) : ofNat n ≠ [] := Nat.toDigits_ne_nil

theorem valueOf_ofNat (n : Nat) : valueOf (ofNat n) = n := by
  have hvalue := Nat.ofDigitChars_ten_toDigits (n := n)
  rw [Nat.ofDigitChars_eq_foldl] at hvalue
  simpa [valueOf, ofNat, digitValue, Nat.mul_comm] using hvalue

theorem head?_ofNat {n : Nat} (h : 0 < n) : (ofNat n).head? ≠ some '0' := by
  induction n using Nat.strongRecOn with
  | ind n ih =>
    rw [ofNat]
    by_cases hn : n < 10
    · have hsmall : ∀ m : Fin 10, 0 < m.val → Nat.digitChar m ≠ '0' := by decide
      rw [Nat.toDigits_of_lt_base hn, List.head?_cons]
      exact fun heq => hsmall ⟨n, hn⟩ h (Option.some.inj heq)
    · obtain ⟨c, rest, hcons⟩ := List.exists_cons_of_ne_nil (ofNat_ne_nil (n / 10))
      have hhead := ih (n / 10) (by omega) (by omega)
      rw [hcons, List.head?_cons] at hhead
      rw [Nat.toDigits_of_base_le (by decide) (by omega)]
      show (ofNat (n / 10) ++ _).head? ≠ some '0'
      rw [hcons]
      exact hhead

/-! ### Runs of digits -/

/-- The text behind a run of digits starts with no digit. -/
theorem takeWhile_isDigit_append {digits rest : Text} (h : ∀ c ∈ digits, isDigit c = true)
    (hrest : ∀ c, rest.head? = some c → isDigit c = false) :
    (digits ++ rest).takeWhile isDigit = digits ∧ (digits ++ rest).dropWhile isDigit = rest := by
  rw [List.takeWhile_append_of_pos h, List.dropWhile_append_of_pos h]
  cases rest with
  | nil => simp
  | cons c cs => simp [hrest c rfl]

theorem digitValue_le {c : Char} (h : isDigit c = true) : digitValue c ≤ 9 := by
  simp only [isDigit, Bool.and_eq_true, decide_eq_true_eq] at h
  have hlast : c.toNat ≤ '9'.toNat := h.2
  have hnine : '9'.toNat = '0'.toNat + 9 := rfl
  rw [digitValue]
  omega

/-- A run of digits has a value that fits in as many places. -/
theorem valueOf_lt {digits : Text} (h : ∀ c ∈ digits, isDigit c = true) :
    valueOf digits < Nat.pow 10 digits.length := by
  induction digits using List.reverseRecOn with
  | nil => decide
  | append_singleton first c ih =>
    have hlast := digitValue_le (h c (by simp))
    have hfirst := ih fun d hd => h d (List.mem_append_left _ hd)
    have hpow : Nat.pow 10 (first ++ [c]).length = Nat.pow 10 first.length * 10 := by
      rw [List.length_append, List.length_singleton]
      rfl
    rw [valueOf_append_singleton, hpow]
    omega

theorem ofDigits?_lt {digits : Text} {n : Nat} (h : ofDigits? digits = some n) :
    n < Nat.pow 10 digits.length := by
  rw [ofDigits?] at h
  split at h
  · rename_i hdigits
    rw [← Option.some.inj h]
    exact valueOf_lt (List.all_eq_true.1 hdigits.2)
  · cases h

theorem valueOf_append_zeros (digits : Text) (count : Nat) :
    valueOf (digits ++ List.replicate count '0') = valueOf digits * 10 ^ count := by
  induction count with
  | zero => simp
  | succ count ih =>
    have hzero : digitValue '0' = 0 := rfl
    rw [List.replicate_succ', ← List.append_assoc, valueOf_append_singleton, ih, hzero]
    ring

/-! ### Numbers with a sign -/

/-- The text is an integer in decimal digits, with or without a sign. -/
inductive Integer : Text → Int → Prop
  | unsigned {digits : Text} : digits ≠ [] → (∀ c ∈ digits, isDigit c = true) →
      Integer digits (valueOf digits)
  | plus {digits : Text} : digits ≠ [] → (∀ c ∈ digits, isDigit c = true) →
      Integer ('+' :: digits) (valueOf digits)
  | minus {digits : Text} : digits ≠ [] → (∀ c ∈ digits, isDigit c = true) →
      Integer ('-' :: digits) (-valueOf digits)

/-- The value of a run of digits, taken for an integer. -/
theorem ofDigits?_eq_some_iff {digits : Text} {n : Int} :
    (ofDigits? digits >>= fun m => pure (m : Int)) = some n ↔
      digits ≠ [] ∧ (∀ c ∈ digits, isDigit c = true) ∧ (valueOf digits : Int) = n := by
  have hall : digits.all isDigit = true ↔ ∀ c ∈ digits, isDigit c = true := List.all_eq_true
  by_cases hdigits : digits ≠ [] ∧ digits.all isDigit = true
  · rw [ofDigits?, if_pos hdigits]
    simp only [hdigits.1, ← hall, hdigits.2, ne_eq, not_false_eq_true, true_and]
    exact Option.some_inj
  · rw [ofDigits?, if_neg hdigits]
    simp only [← hall, ← and_assoc, hdigits, false_and, iff_false]
    intro h
    cases h

theorem toInt?_eq_some_iff {text : Text} {n : Int} : toInt? text = some n ↔ Integer text n := by
  constructor
  · intro h
    rw [toInt?.eq_def] at h
    split at h
    · obtain ⟨m, hm, rfl⟩ := Option.map_eq_some_iff.1 h
      obtain ⟨hne, hdigits, rfl⟩ := ofDigits?_eq_some_iff.1 hm
      exact .minus hne hdigits
    · obtain ⟨m, hm, rfl⟩ := Option.map_eq_some_iff.1 h
      obtain ⟨hne, hdigits, rfl⟩ := ofDigits?_eq_some_iff.1 hm
      exact .plus hne hdigits
    · obtain ⟨m, hm, rfl⟩ := Option.map_eq_some_iff.1 h
      obtain ⟨hne, hdigits, rfl⟩ := ofDigits?_eq_some_iff.1 hm
      exact .unsigned hne hdigits
  · intro h
    cases h with
    | plus hne hdigits => rw [toInt?, ofDigits?_eq_some_iff.2 ⟨hne, hdigits, rfl⟩, Option.map_some]
    | minus hne hdigits => rw [toInt?, ofDigits?_eq_some_iff.2 ⟨hne, hdigits, rfl⟩, Option.map_some]
    | unsigned hne hdigits =>
      rw [toInt?.eq_def]
      -- no digit is a sign
      split
      · exact absurd (hdigits '-' (List.mem_cons_self ..)) (by decide)
      · exact absurd (hdigits '+' (List.mem_cons_self ..)) (by decide)
      · rw [ofDigits?_eq_some_iff.2 ⟨hne, hdigits, rfl⟩, Option.map_some]

/-- A text is no signed 64-bit integer if it is no integer or one out of bounds. -/
theorem toInt64?_eq_none_iff {text : Text} :
    toInt64? text = none ↔ ∀ n, Integer text n → n < -2 ^ 63 ∨ 2 ^ 63 ≤ n := by
  rw [toInt64?, Option.filter_eq_none_iff]
  simp only [fits64, ← toInt?_eq_some_iff, Bool.and_eq_true, decide_eq_true_eq]
  refine forall₂_congr fun n _ => ?_
  omega

end Colloquy.Text
