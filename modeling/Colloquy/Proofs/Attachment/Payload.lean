import Colloquy.Activity.Problem
import Colloquy.Proofs.Attachment.Stages
import Colloquy.Proofs.Text.Casing

/-!
# Attachments without flaws

An attachment that is found has a type that is not blank and its payload in exactly one place, if
the probe answers with types that are not blank (`flaws_resolve`).
-/

namespace Colloquy

namespace Text

theorem mem_words {text word : Text} (h : word ∈ words text) :
    ∃ c rest, word = c :: rest ∧ isBlank c = false := by
  induction text with
  | nil => cases h
  | cons c cs ih =>
    rw [words.eq_def] at h
    simp only at h
    split at h
    · exact ih h
    · rename_i hc
      rw [Bool.not_eq_true] at hc
      split at h
      · rw [List.mem_singleton.1 h]
        exact ⟨c, [], rfl, hc⟩
      · split at h
        · rcases List.mem_cons.1 h with rfl | h
          · exact ⟨c, [], rfl, hc⟩
          · exact ih h
        · split at h
          · rw [List.mem_singleton.1 h]
            exact ⟨c, [], rfl, hc⟩
          · rename_i first more hwords
            rcases List.mem_cons.1 h with rfl | h
            · exact ⟨c, first, rfl, hc⟩
            · refine ih ?_
              rw [hwords]
              exact List.mem_cons_of_mem _ h

end Text

namespace MediaType

theorem trim_cardLead_append (ending : Text) : Text.trim (cardLead ++ ending) ≠ [] := by
  have hc : 'a' ∈ cardLead := by decide
  exact Text.trim_ne_nil (List.mem_append_left _ hc) (by decide)

theorem ofCard?_ne_blank {name type : Text} (h : ofCard? name = some type) :
    Text.trim type ≠ [] := by
  rw [ofCard?, Option.map_eq_some_iff] at h
  obtain ⟨card, -, rfl⟩ := h
  exact trim_cardLead_append card.2

theorem Table.ofLocator?_ne_blank {types : Table} {locator type : Text}
    (h : types.ofLocator? locator = some type) : Text.trim type ≠ [] := by
  rw [ofLocator?] at h
  obtain ⟨extension, -, h⟩ := Option.bind_eq_some_iff.1 h
  rcases Option.or_eq_some_iff.1 h with h | ⟨-, h⟩
  · obtain ⟨c, hc, hblank⟩ := types.named h
    exact Text.trim_ne_nil hc hblank
  · exact ofCard?_ne_blank h

theorem ofToken_ne_blank {c : Char} {rest : Text} (h : Text.isBlank c = false) :
    Text.trim (ofToken (c :: rest)) ≠ [] := by
  rw [ofToken]
  cases hcard : ofCard? (Text.lowercase (c :: rest)) with
  | some type => exact ofCard?_ne_blank hcard
  | none => exact Text.trim_lowercase_ne_nil h

end MediaType

namespace Attachment

variable {around : Surroundings}

theorem flaws_ofUrl {type url : Text} (h : Text.trim type ≠ []) : (ofUrl type url).flaws = [] := by
  simp [flaws, ofUrl, h]

theorem flaws_ofContent {type : Text} {content : Json} (h : Text.trim type ≠ []) :
    (ofContent type content).flaws = [] := by
  simp [flaws, ofContent, h]

theorem typeOf_ne_blank {locator type : Text} {token : Option Text}
    (hprobe : ∀ url answer, around.probe url = .ok answer → Text.trim answer ≠ [])
    (htoken : ∀ word, token = some word → ∃ c rest, word = c :: rest ∧ Text.isBlank c = false)
    (h : typeOf around locator token = .ok type) : Text.trim type ≠ [] := by
  cases token with
  | some word =>
    cases h
    obtain ⟨c, rest, rfl, hc⟩ := htoken word rfl
    exact MediaType.ofToken_ne_blank hc
  | none =>
    simp only [typeOf] at h
    split at h
    · rename_i inferred hinferred
      cases h
      exact MediaType.Table.ofLocator?_ne_blank hinferred
    · split at h
      · cases hanswer : around.probe locator with
        | error reason =>
          rw [hanswer] at h
          cases h
        | ok answer =>
          rw [hanswer] at h
          cases h
          exact hprobe locator _ hanswer
      · cases h
        decide

theorem flaws_ofFile {type path : Text} {attachment : Attachment} (htype : Text.trim type ≠ [])
    (h : ofFile around type path = .ok attachment) : attachment.flaws = [] := by
  rcases of_ofFile_eq_ok h with ⟨-, text, content, -, -, rfl⟩ | ⟨-, -, text, -, rfl⟩ |
    ⟨-, -, bytes, -, rfl⟩
  · exact flaws_ofContent htype
  · exact flaws_ofContent htype
  · exact flaws_ofUrl htype

/-- An attachment that is found has a type and exactly one payload. -/
theorem flaws_resolve {argument : Text} {attachment : Attachment}
    (hprobe : ∀ url answer, around.probe url = .ok answer → Text.trim answer ≠ [])
    (h : resolve around argument = .ok attachment) : attachment.flaws = [] := by
  obtain ⟨locator, rest, type, hwords, htype, hfound⟩ := of_resolve_eq_ok h
  have hne : Text.trim type ≠ [] := by
    refine typeOf_ne_blank hprobe ?_ htype
    intro word hword
    have hmem : word ∈ Text.words argument := by
      rw [hwords]
      exact List.mem_cons_of_mem _ (List.mem_of_head? hword)
    exact Text.mem_words hmem
  rcases hfound with ⟨-, rfl⟩ | ⟨-, path, -, hfile⟩
  · exact flaws_ofUrl hne
  · exact flaws_ofFile hne hfile

end Attachment

end Colloquy
