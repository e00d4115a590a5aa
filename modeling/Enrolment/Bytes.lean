/-!
# Enrolment.Bytes

Byte strings, and the texts they spell in UTF-8. Payloads, files and keys are byte strings; every
length limit of the protocol counts the bytes of a text, so the length of `utf8 s` is the length
that the limits speak of.

* `text?_utf8`: a text is read back from its own bytes.
* `utf8_of_text?`: bytes that spell a text are the bytes of that text, so no two byte strings
  spell the same one.
-/

namespace Enrolment

abbrev Bytes := List UInt8

/-- The UTF-8 bytes of a text. -/
def utf8 (s : String) : Bytes := s.toByteArray.data.toList

def ascii (c : Char) : UInt8 := c.toUInt8

namespace Bytes

/-- The text spelled by `b`, when `b` is well-formed UTF-8. Overlong forms and surrogates are
not. -/
def text? (b : Bytes) : Option String := String.fromUTF8? ⟨b.toArray⟩

@[simp] theorem text?_utf8 (s : String) : text? (utf8 s) = some s := by
  have h : (⟨(utf8 s).toArray⟩ : ByteArray) = s.toByteArray := by simp [utf8]
  rw [text?, h]
  simp only [String.fromUTF8?, s.isValidUTF8, dite_true]
  rfl

theorem utf8_of_text? {b : Bytes} {s : String} (h : text? b = some s) : utf8 s = b := by
  simp only [text?, String.fromUTF8?] at h
  split at h
  · cases h
    simp [utf8, String.fromUTF8]
  · cases h

/-- What holds of every number below 256 holds of every byte. -/
theorem forall_byte {P : UInt8 → Prop} (h : ∀ i : Fin 256, P (UInt8.ofNat i)) (b : UInt8) :
    P b := by
  have hb := h ⟨b.toNat, b.toNat_lt⟩
  rwa [UInt8.ofNat_toNat] at hb

end Bytes

theorem utf8_injective {s t : String} (h : utf8 s = utf8 t) : s = t := by
  have htext := congrArg Bytes.text? h
  rwa [Bytes.text?_utf8, Bytes.text?_utf8, Option.some_inj] at htext

theorem length_utf8 (s : String) : (utf8 s).length = s.utf8ByteSize := by
  simp only [utf8, Array.length_toList]
  rfl

theorem utf8_append (s t : String) : utf8 (s ++ t) = utf8 s ++ utf8 t := by
  simp [utf8, String.toByteArray_append]

theorem utf8_ofList (cs : List Char) :
    utf8 (String.ofList cs) = cs.flatMap String.utf8EncodeChar := by
  simp [utf8, String.toByteArray_ofList, List.utf8Encode]

theorem utf8_eq_flatMap (s : String) : utf8 s = s.toList.flatMap String.utf8EncodeChar := by
  rw [← utf8_ofList, String.ofList_toList]

end Enrolment
