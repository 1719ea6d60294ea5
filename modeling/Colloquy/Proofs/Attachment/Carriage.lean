import Colloquy.Proofs.Attachment.Dependence
import Colloquy.Proofs.Text.Base64

/-!
# How attachments carry files

A local file stands whole in its attachment, in the one place that follows from the content type
(`Conveys`): as the value of a JSON text, as a text, or in a data URL. As a text and as data no two
files look alike (`Conveys.unique`). `conveys_resolve` says this of `resolve`, and which files there
are attachments for.
-/

namespace Colloquy.Attachment

open MediaType (holdsJson isTextual isRemote)

variable {around : Surroundings} {argument type path : Text} {bytes : List UInt8}
  {attachment : Attachment}

/-- The attachment carries the bytes in one place, which follows from its type: the value of a JSON
text, the text itself or a data URL. -/
structure Conveys (bytes : List UInt8) (attachment : Attachment) : Prop where
  json : holdsJson attachment.contentType = true →
    attachment.contentUrl = none ∧ ∃ text content, Utf8.encode text = bytes ∧
      Json.read? text = .ok content ∧ attachment.content = some content
  text : holdsJson attachment.contentType = false → isTextual attachment.contentType = true →
    attachment.contentUrl = none ∧ ∃ text, Utf8.encode text = bytes ∧
      attachment.content = some (.string text)
  data : holdsJson attachment.contentType = false → isTextual attachment.contentType = false →
    attachment.content = none ∧ ∃ payload, Base64.decode? payload = some bytes ∧
      attachment.contentUrl =
        some (Text.concat ["data:", attachment.contentType, ";base64,", payload])

theorem textOfBytes_eq_ok_iff {text : Text} :
    textOfBytes path bytes = .ok text ↔ Utf8.encode text = bytes := by
  rw [eq_comm (b := bytes), ← Utf8.decode?_eq_some_iff, textOfBytes]
  cases Utf8.decode? bytes <;> simp

theorem textOfBytes_eq_error_iff {cause : AttachmentError} :
    textOfBytes path bytes = .error cause ↔
      cause = .unreadable path .notText ∧ ∀ text, Utf8.encode text ≠ bytes := by
  have hread : (∀ text, Utf8.encode text ≠ bytes) ↔ Utf8.decode? bytes = none := by
    rw [Option.eq_none_iff_forall_ne_some]
    refine forall_congr' fun text => ?_
    rw [Ne, Ne, Utf8.decode?_eq_some_iff, eq_comm]
  rw [hread, textOfBytes]
  cases Utf8.decode? bytes <;> simp [eq_comm]

/-! ### What the type decides -/

theorem ofBytes_json_eq_ok_iff (hjson : holdsJson type = true) :
    ofBytes type path bytes = .ok attachment ↔
      ∃ text content, Utf8.encode text = bytes ∧ Json.read? text = .ok content ∧
        attachment = ofContent type content := by
  rw [ofBytes, if_pos hjson, bind_eq_ok]
  simp only [bind_eq_ok, textOfBytes_eq_ok_iff, mapError_eq_ok]
  constructor
  · rintro ⟨text, htext, content, hcontent, h⟩
    cases h
    exact ⟨text, content, htext, hcontent, rfl⟩
  · rintro ⟨text, content, htext, hcontent, rfl⟩
    exact ⟨text, htext, content, hcontent, rfl⟩

theorem ofBytes_text (hjson : holdsJson type = false) (htextual : isTextual type = true) :
    ofBytes type path bytes =
      (textOfBytes path bytes).map fun text => ofContent type (.string text) := by
  rw [ofBytes, if_neg (by simp [hjson]), if_pos htextual]
  cases textOfBytes path bytes <;> rfl

theorem ofBytes_data (hjson : holdsJson type = false) (htextual : isTextual type = false) :
    ofBytes type path bytes = .ok (ofUrl type (dataUrl type bytes)) := by
  rw [ofBytes, if_neg (by simp [hjson]), if_neg (by simp [htextual])]
  rfl

/-- An attachment that is made of bytes carries them. -/
theorem conveys_ofBytes (h : ofBytes type path bytes = .ok attachment) :
    attachment.contentType = type ∧ attachment.Conveys bytes := by
  cases hjson : holdsJson type with
  | true =>
    obtain ⟨text, content, htext, hcontent, rfl⟩ := (ofBytes_json_eq_ok_iff hjson).1 h
    refine ⟨rfl, fun _ => ⟨rfl, text, content, htext, hcontent, rfl⟩, ?_, ?_⟩
    · exact fun hnot => absurd (hjson.symm.trans hnot) (by decide)
    · exact fun hnot => absurd (hjson.symm.trans hnot) (by decide)
  | false =>
    cases htextual : isTextual type with
    | true =>
      rw [ofBytes_text hjson htextual] at h
      cases htext : textOfBytes path bytes with
      | error cause =>
        rw [htext] at h
        cases h
      | ok text =>
        rw [htext] at h
        cases h
        refine ⟨rfl, ?_, fun _ _ => ⟨rfl, text, textOfBytes_eq_ok_iff.1 htext, rfl⟩, ?_⟩
        · exact fun hholds => absurd (hjson.symm.trans hholds) (by decide)
        · exact fun _ hnot => absurd (htextual.symm.trans hnot) (by decide)
    | false =>
      rw [ofBytes_data hjson htextual] at h
      cases h
      refine ⟨rfl, ?_, ?_, fun _ _ => ⟨rfl, _, Base64.decode?_encode bytes, rfl⟩⟩
      · exact fun hholds => absurd (hjson.symm.trans hholds) (by decide)
      · exact fun _ hholds => absurd (htextual.symm.trans hholds) (by decide)

/-- Only one file can stand in an attachment as text or as data. -/
theorem Conveys.unique {others : List UInt8} (h : attachment.Conveys bytes)
    (hother : attachment.Conveys others) (hjson : holdsJson attachment.contentType = false) :
    bytes = others := by
  cases htextual : isTextual attachment.contentType with
  | true =>
    obtain ⟨-, text, rfl, hcontent⟩ := h.text hjson htextual
    obtain ⟨-, text', rfl, hcontent'⟩ := hother.text hjson htextual
    cases hcontent.symm.trans hcontent'
    rfl
  | false =>
    obtain ⟨-, payload, hpayload, hurl⟩ := h.data hjson htextual
    obtain ⟨-, payload', hpayload', hurl'⟩ := hother.data hjson htextual
    have hsame := Option.some.inj (hurl.symm.trans hurl')
    simp only [Text.concat_cons, Text.concat_nil, List.append_nil, List.append_cancel_left_eq]
      at hsame
    rw [hsame] at hpayload
    exact Option.some.inj (hpayload.symm.trans hpayload')

/-! ### Local files -/

/-- The argument names a local file: its content type, the path it is found at and its bytes. -/
def NamesFile (around : Surroundings) (argument type path : Text) (bytes : List UInt8) : Prop :=
  ∃ locator rest, Text.words argument = locator :: rest ∧ isRemote locator = false ∧
    typeOf around locator rest.head? = .ok type ∧ locate around locator = .ok path ∧
    around.files.read path = .ok bytes

theorem NamesFile.resolve (h : NamesFile around argument type path bytes) :
    resolve around argument = ofBytes type path bytes := by
  obtain ⟨locator, rest, hwords, hlocal, htype, hpath, hread⟩ := h
  rw [resolve_of_words hwords, htype, ← ofFile_of_read hread]
  simp only [hlocal]
  show (locate around locator >>= ofFile around type) = _
  rw [hpath]
  rfl

/-- An attachment for a local file has its type and carries the file in the place that follows from
it. Any file can be carried as data, exactly those that are text as text, and those that are the
text of a JSON document as JSON; and what is not carried as JSON can only be this one file. -/
theorem conveys_resolve (hfile : NamesFile around argument type path bytes) :
    (∀ attachment, resolve around argument = .ok attachment →
        attachment.contentType = type ∧ attachment.Conveys bytes) ∧
      (holdsJson type = true →
        ((∃ attachment, resolve around argument = .ok attachment) ↔
          ∃ text content, Utf8.encode text = bytes ∧ Json.read? text = .ok content)) ∧
      (holdsJson type = false → isTextual type = true → ∀ cause,
        resolve around argument = .error cause ↔
          cause = .unreadable path .notText ∧ ∀ text, Utf8.encode text ≠ bytes) ∧
      (holdsJson type = false → isTextual type = false →
        ∃ attachment, resolve around argument = .ok attachment) ∧
      ∀ (elsewhere : Surroundings) (other kind place : Text) (others : List UInt8),
        NamesFile elsewhere other kind place others → holdsJson type = false → bytes ≠ others →
        ∀ attachment, resolve around argument = .ok attachment →
          resolve elsewhere other ≠ .ok attachment := by
  rw [hfile.resolve]
  refine ⟨fun attachment => conveys_ofBytes, ?_, ?_, ?_, ?_⟩
  · intro hjson
    constructor
    · rintro ⟨attachment, h⟩
      obtain ⟨text, content, htext, hcontent, -⟩ := (ofBytes_json_eq_ok_iff hjson).1 h
      exact ⟨text, content, htext, hcontent⟩
    · rintro ⟨text, content, htext, hcontent⟩
      exact ⟨_, (ofBytes_json_eq_ok_iff hjson).2 ⟨text, content, htext, hcontent, rfl⟩⟩
  · intro hjson htextual cause
    rw [← textOfBytes_eq_error_iff, ofBytes_text hjson htextual]
    cases textOfBytes path bytes <;> simp [Except.map]
  · intro hjson htextual
    exact ⟨_, ofBytes_data hjson htextual⟩
  · intro elsewhere other kind place others hother hjson hne attachment h hsame
    rw [hother.resolve] at hsame
    obtain ⟨htype, hbytes⟩ := conveys_ofBytes h
    exact hne (hbytes.unique (conveys_ofBytes hsame).2 (htype ▸ hjson))

theorem namesFile_desk (note : Text) (probe : Probe) :
    NamesFile (desk note probe) "a.txt IMAGE/PNG" "image/png" "w/a.txt" (Utf8.encode "hello") ∧
      NamesFile (desk note probe) "b.txt image/png" "image/png" "b.txt" (Utf8.encode note) := by
  have hcapital : MediaType.ofToken "IMAGE/PNG" = "image/png".toList := by decide +kernel
  have hsmall : MediaType.ofToken "image/png" = "image/png".toList := by decide +kernel
  exact ⟨⟨"a.txt", ["IMAGE/PNG"], by decide, by decide, congrArg Except.ok hcapital, rfl, rfl⟩,
    ⟨"b.txt", ["image/png"], by decide, by decide, congrArg Except.ok hsmall, rfl, rfl⟩⟩

/-- A note that is called a picture is carried as data, and another note is another picture. -/
theorem conveys_resolve_desk :
    (∃ attachment payload, resolve (desk "one" .offline) "a.txt IMAGE/PNG" = .ok attachment ∧
        attachment.content = none ∧ Base64.decode? payload = some (Utf8.encode "hello") ∧
        attachment.contentUrl =
          some (Text.concat ["data:", attachment.contentType, ";base64,", payload])) ∧
      resolve (desk "one" .offline) "a.txt IMAGE/PNG" ≠
        resolve (desk "one" .offline) "b.txt image/png" := by
  have hnames := namesFile_desk "one" .offline
  have hjson : holdsJson "image/png" = false := by decide
  have htextual : isTextual "image/png" = false := by decide
  obtain ⟨hconveys, -, -, hdata, hother⟩ := conveys_resolve hnames.1
  obtain ⟨attachment, hattachment⟩ := hdata hjson htextual
  obtain ⟨htype, hbytes⟩ := hconveys attachment hattachment
  rw [← htype] at hjson htextual
  obtain ⟨hcontent, payload, hpayload, hurl⟩ := hbytes.data hjson htextual
  refine ⟨⟨attachment, payload, hattachment, hcontent, hpayload, hurl⟩, ?_⟩
  intro hsame
  rw [htype] at hjson
  exact hother (desk "one" .offline) _ _ _ _ hnames.2 hjson (by decide) attachment hattachment
    (hsame ▸ hattachment)

end Colloquy.Attachment
