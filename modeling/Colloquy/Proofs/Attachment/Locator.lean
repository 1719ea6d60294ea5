import Colloquy.Proofs.Attachment.Stages
import Colloquy.Proofs.Text.Fragment

/-!
# Arguments without a locator

The argument of a command is trimmed, and its locator is the first of its words. Both go by the same
blanks, so there is a word in every argument from which trimming leaves something
(`words_eq_nil_iff`), and only for an argument of blanks is it said that the locator is missing
(`resolve_eq_missingLocator_iff`).
-/

namespace Colloquy

namespace Text

theorem trim_eq_nil_iff {text : Text} : trim text = [] ↔ ∀ c ∈ text, isBlank c = true := by
  constructor
  · intro h c hc
    by_contra hblank
    exact trim_ne_nil hc (Bool.not_eq_true _ ▸ hblank) h
  · intro h
    rw [trim, trimStart, List.dropWhile_eq_nil_iff.2 h]
    rfl

theorem words_cons_of_blank {c : Char} (h : isBlank c = true) (rest : Text) :
    words (c :: rest) = words rest := by
  rw [words.eq_def]
  exact if_pos h

theorem words_cons_ne_nil {c : Char} (h : isBlank c = false) (rest : Text) :
    words (c :: rest) ≠ [] := by
  rw [words.eq_def]
  simp only [h, Bool.false_eq_true, if_false]
  cases rest with
  | nil => simp
  | cons d more =>
    simp only
    split
    · simp
    · split <;> simp

/-- There is no word in a text exactly if trimming leaves nothing of it. -/
theorem words_eq_nil_iff (text : Text) : words text = [] ↔ trim text = [] := by
  rw [trim_eq_nil_iff]
  induction text with
  | nil => simp [words]
  | cons c rest ih =>
    cases hc : isBlank c with
    | true =>
      rw [words_cons_of_blank hc, ih]
      simp [hc]
    | false => simp [words_cons_ne_nil hc, hc]

/-- A fragment has a word. -/
theorem Fragment.words_ne_nil {text : Text} (h : Fragment text) : words text ≠ [] := by
  rw [Ne, words_eq_nil_iff, trim_of_tight h.tight]
  exact h.ne_nil

end Text

namespace Attachment

/-- The locator is missing exactly where an argument has no word. -/
theorem resolve_eq_missingLocator_iff (around : Surroundings) (argument : Text) :
    resolve around argument = .error .missingLocator ↔ Text.words argument = [] := by
  cases hwords : Text.words argument with
  | nil => simp [resolve, hwords]
  | cons locator rest =>
    simp only [List.cons_ne_nil, iff_false]
    intro h
    rcases of_resolve_eq_error hwords h with
      ⟨reason, h⟩ | h | ⟨path, ⟨failure, h⟩ | ⟨text, fault, h⟩⟩
    all_goals cases h

end Attachment

end Colloquy
