import Colloquy.Text

/-!
# Text as bytes

The UTF-8 form of a text and its inverse. Reading accepts exactly what writing produces:
`decode?_eq_some_iff`.
-/

namespace Colloquy.Utf8

/-- The UTF-8 bytes of a text. -/
def encode (text : Text) : List UInt8 := text.flatMap String.utf8EncodeChar

/-- The text with these UTF-8 bytes, if there is one. -/
def decode? (bytes : List UInt8) : Option Text :=
  (String.fromUTF8? bytes.toByteArray).map String.toList

/-- The number of bytes of a text. -/
def size : Text → Nat
  | [] => 0
  | c :: cs => c.utf8Size + size cs

@[simp] theorem encode_nil : encode [] = [] := rfl

@[simp] theorem encode_append (a b : Text) : encode (a ++ b) = encode a ++ encode b :=
  List.flatMap_append

theorem toByteArray_encode (text : Text) : (encode text).toByteArray = text.utf8Encode := rfl

/-- Writing, then reading. -/
theorem decode?_encode (text : Text) : decode? (encode text) = some text := by
  have hvalid : (encode text).toByteArray.IsValidUTF8 := (String.ofList text).isValidUTF8
  have hsame : String.fromUTF8 (encode text).toByteArray hvalid = String.ofList text := rfl
  simp [decode?, String.fromUTF8?, hvalid, hsame]

/-- Reading, then writing. -/
theorem encode_of_decode?_eq_some {bytes : List UInt8} {text : Text}
    (h : decode? bytes = some text) : encode text = bytes := by
  simp only [decode?, String.fromUTF8?, Option.map_eq_some_iff] at h
  obtain ⟨s, hs, rfl⟩ := h
  split at hs
  · next hvalid =>
    have hbytes : bytes.toByteArray = s.toByteArray := by
      rw [← Option.some.inj hs]; rfl
    have hlist : s.toByteArray = (encode s.toList).toByteArray := by
      rw [toByteArray_encode, ← String.toByteArray_ofList, String.ofList_toList]
    have hdata : bytes.toArray = (encode s.toList).toArray := by
      rw [← List.data_toByteArray, ← List.data_toByteArray, hbytes, hlist]
    simpa using hdata.symm
  · cases hs

theorem decode?_eq_some_iff {bytes : List UInt8} {text : Text} :
    decode? bytes = some text ↔ bytes = encode text :=
  ⟨fun h => (encode_of_decode?_eq_some h).symm, fun h => h ▸ decode?_encode text⟩

end Colloquy.Utf8
