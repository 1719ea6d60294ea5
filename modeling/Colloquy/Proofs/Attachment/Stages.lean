import Colloquy.Attachment.Resolve
import Colloquy.Proofs.Outcome

/-!
# The stages of finding an attachment

An attachment is found in stages: its type, its path if it is local, and the file there. What is
found if all of them succeed (`of_resolve_eq_ok`, `of_ofFile_eq_ok`), and how each of them can fail
(`of_resolve_eq_error`).
-/

namespace Colloquy.Attachment

open MediaType (holdsJson isTextual isRemote)

variable {around : Surroundings} {argument locator type path : Text} {rest : List Text}
  {attachment : Attachment} {cause : AttachmentError}

theorem resolve_of_words (hwords : Text.words argument = locator :: rest) :
    resolve around argument = typeOf around locator rest.head? >>= fun type =>
      if isRemote locator then pure (ofUrl type locator)
      else locate around locator >>= ofFile around type := by
  rw [resolve, hwords]

/-! ### Success -/

/-- What is found is remote, or the path and the file have been found. -/
theorem of_resolve_eq_ok (h : resolve around argument = .ok attachment) :
    ∃ locator rest type, Text.words argument = locator :: rest ∧
      typeOf around locator rest.head? = .ok type ∧
      ((isRemote locator = true ∧ attachment = ofUrl type locator) ∨
        (isRemote locator = false ∧ ∃ path, locate around locator = .ok path ∧
          ofFile around type path = .ok attachment)) := by
  cases hwords : Text.words argument with
  | nil =>
    rw [resolve, hwords] at h
    cases h
  | cons locator rest =>
    rw [resolve_of_words hwords] at h
    obtain ⟨type, htype, h⟩ := bind_eq_ok.1 h
    refine ⟨locator, rest, type, rfl, htype, ?_⟩
    split at h
    · rename_i hremote
      cases h
      exact .inl ⟨hremote, rfl⟩
    · rename_i hlocal
      exact .inr ⟨Bool.not_eq_true _ ▸ hlocal, bind_eq_ok.1 h⟩

/-- A file is carried as the value of its JSON text, as its text or as data. -/
theorem of_ofFile_eq_ok (h : ofFile around type path = .ok attachment) :
    (holdsJson type = true ∧ ∃ text content, readText around path = .ok text ∧
        Json.read? text = .ok content ∧ attachment = ofContent type content) ∨
      (holdsJson type = false ∧ isTextual type = true ∧ ∃ text,
        readText around path = .ok text ∧ attachment = ofContent type (.string text)) ∨
      (holdsJson type = false ∧ isTextual type = false ∧ ∃ bytes,
        around.files.read path = .ok bytes ∧ attachment = ofUrl type (dataUrl type bytes)) := by
  rw [ofFile] at h
  split at h
  · rename_i hjson
    obtain ⟨text, htext, h⟩ := bind_eq_ok.1 h
    obtain ⟨content, hcontent, h⟩ := bind_eq_ok.1 h
    cases h
    exact .inl ⟨hjson, text, content, htext, mapError_eq_ok.1 hcontent, rfl⟩
  · rename_i hjson
    rw [Bool.not_eq_true] at hjson
    split at h
    · rename_i htextual
      obtain ⟨text, htext, h⟩ := bind_eq_ok.1 h
      cases h
      exact .inr (.inl ⟨hjson, htextual, text, htext, rfl⟩)
    · rename_i htextual
      rw [Bool.not_eq_true] at htextual
      obtain ⟨bytes, hbytes, h⟩ := bind_eq_ok.1 h
      cases h
      exact .inr (.inr ⟨hjson, htextual, bytes, mapError_eq_ok.1 hbytes, rfl⟩)

/-! ### Failure -/

theorem of_typeOf_eq_error {token : Option Text} (h : typeOf around locator token = .error cause) :
    ∃ reason, cause = .unknownType locator reason := by
  simp only [typeOf] at h
  split at h
  · cases h
  · split at h
    · cases h
    · split at h
      · obtain ⟨reason, -, rfl⟩ := mapError_eq_error.1 h
        exact ⟨reason, rfl⟩
      · cases h

theorem of_locate_eq_error (h : locate around locator = .error cause) :
    cause = .notFound locator (candidates around locator) := by
  simp only [locate] at h
  split at h
  · cases h
  · cases h
    rfl

theorem of_readText_eq_error (h : readText around path = .error cause) :
    ∃ failure, cause = .unreadable path failure := by
  obtain ⟨failure, -, rfl⟩ := mapError_eq_error.1 h
  exact ⟨failure, rfl⟩

/-- A file that cannot be carried cannot be read, as text where it has to be one, or is no JSON. -/
theorem of_ofFile_eq_error (h : ofFile around type path = .error cause) :
    (∃ failure, cause = .unreadable path failure) ∨
      ∃ text fault, cause = .notJson path text fault := by
  rw [ofFile] at h
  split at h
  · rcases bind_eq_error.1 h with h | ⟨text, -, h⟩
    · exact .inl (of_readText_eq_error h)
    · rcases bind_eq_error.1 h with h | ⟨content, -, h⟩
      · obtain ⟨fault, -, rfl⟩ := mapError_eq_error.1 h
        exact .inr ⟨text, fault, rfl⟩
      · cases h
  · split at h
    · rcases bind_eq_error.1 h with h | ⟨text, -, h⟩
      · exact .inl (of_readText_eq_error h)
      · cases h
    · rcases bind_eq_error.1 h with h | ⟨bytes, -, h⟩
      · obtain ⟨failure, -, rfl⟩ := mapError_eq_error.1 h
        exact .inl ⟨failure, rfl⟩
      · cases h

/-- Where there is a locator, its type is unknown, nothing is found for it, or the file that is
found cannot be carried. -/
theorem of_resolve_eq_error (hwords : Text.words argument = locator :: rest)
    (h : resolve around argument = .error cause) :
    (∃ reason, cause = .unknownType locator reason) ∨
      cause = .notFound locator (candidates around locator) ∨
      ∃ path, (∃ failure, cause = .unreadable path failure) ∨
        ∃ text fault, cause = .notJson path text fault := by
  rw [resolve_of_words hwords] at h
  rcases bind_eq_error.1 h with h | ⟨type, -, h⟩
  · exact .inl (of_typeOf_eq_error h)
  · split at h
    · cases h
    · rcases bind_eq_error.1 h with h | ⟨path, -, h⟩
      · exact .inr (.inl (of_locate_eq_error h))
      · exact .inr (.inr ⟨path, of_ofFile_eq_error h⟩)

end Colloquy.Attachment
