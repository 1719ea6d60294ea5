import Colloquy.Proofs.Attachment.Stages
import Colloquy.Proofs.Json.Canonical

/-!
# Contents of attachments

An attachment that is found has either a URL or a content, and a content is a value that a reader
of JSON makes: the file itself if it holds JSON, or its text as a string (`placed_resolve`).
-/

namespace Colloquy.Attachment

variable {around : Surroundings} {attachment : Attachment}

/-- The payload is a URL or a canonical content, and not both. -/
inductive Placed : Attachment → Prop where
  | url (type url : Text) : Placed (ofUrl type url)
  | content (type : Text) {content : Json} (h : content.Canonical) : Placed (ofContent type content)

theorem placed_ofFile {type path : Text} (h : ofFile around type path = .ok attachment) :
    attachment.Placed := by
  rcases of_ofFile_eq_ok h with ⟨-, text, content, -, hcontent, rfl⟩ | ⟨-, -, text, -, rfl⟩ |
    ⟨-, -, bytes, -, rfl⟩
  · exact .content type (Json.canonical_of_read? hcontent)
  · exact .content type (Json.canonical_of_simple (.string text) trivial)
  · exact .url type _

/-- Whatever is found has its payload in one place. -/
theorem placed_resolve {argument : Text} (h : resolve around argument = .ok attachment) :
    attachment.Placed := by
  obtain ⟨locator, rest, type, -, -, ⟨-, rfl⟩ | ⟨-, path, -, hfile⟩⟩ := of_resolve_eq_ok h
  · exact .url type locator
  · exact placed_ofFile hfile

theorem Placed.canonical (h : attachment.Placed) {content : Json}
    (hcontent : attachment.content = some content) : content.Canonical := by
  cases h with
  | url type url => cases hcontent
  | content type h =>
    cases hcontent
    exact h

theorem Placed.not_bare (h : attachment.Placed) :
    ¬ (attachment.contentUrl = none ∧ attachment.content = none) := by
  rintro ⟨hurl, hcontent⟩
  cases h with
  | url type url => cases hurl
  | content type h => cases hcontent

theorem Placed.contentUrl_eq_none (h : attachment.Placed) {content : Json}
    (hcontent : attachment.content = some content) : attachment.contentUrl = none := by
  cases h with
  | url type url => cases hcontent
  | content type h => rfl

end Colloquy.Attachment
