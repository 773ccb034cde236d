/-!
# Text as Bytes

Frames and client input arrive as bytes, and a byte sequence is a text exactly when it is valid
UTF-8. Core's `String` already carries that validity, so writing is the projection to its bytes
and reading is the test for validity; each undoes the other with nothing lost in between.

Bytes are a list here. The readers of the wire format and of stored text walk them from the
front and hand on what they have not read, and on a list "what is left" is the list itself.

## Main definitions

* `Bytes`: A byte sequence.
* `utf8`: The bytes of a text.
* `ofUtf8?`: The text with the given bytes, if there is one.

## Theorems

* `ofUtf8?_utf8`: A text is read back from its bytes.
* `utf8_of_ofUtf8?`: Bytes that read as a text are the bytes of that text.
* `utf8_append`: The bytes of a concatenation.
-/

namespace ChatCluster

/-- A byte sequence. -/
abbrev Bytes := List UInt8

namespace Text

/-- The bytes of a text. -/
def utf8 (s : String) : Bytes :=
  s.toByteArray.data.toList

/-- The text with the given bytes; nothing where they are not valid UTF-8. -/
def ofUtf8? (bytes : Bytes) : Option String :=
  String.fromUTF8? ⟨bytes.toArray⟩

@[simp] theorem ofUtf8?_utf8 (s : String) : ofUtf8? (utf8 s) = some s := by
  have h : (⟨(utf8 s).toArray⟩ : ByteArray) = s.toByteArray := by
    simp [utf8]
  simp only [ofUtf8?, h, String.fromUTF8?]
  rw [dif_pos s.isValidUTF8]
  rfl

theorem utf8_of_ofUtf8? {bytes : Bytes} {s : String} (h : ofUtf8? bytes = some s) :
    utf8 s = bytes := by
  simp only [ofUtf8?, String.fromUTF8?] at h
  split at h
  · obtain rfl := Option.some.inj h
    simp [utf8, String.fromUTF8]
  · exact absurd h (by simp)

theorem utf8_injective {s t : String} (h : utf8 s = utf8 t) : s = t := by
  have := congrArg ofUtf8? h
  simpa using this

@[simp] theorem utf8_append (s t : String) : utf8 (s ++ t) = utf8 s ++ utf8 t := by
  simp [utf8, String.toByteArray_append]

/-- The bytes of a text are the bytes of its characters, one after another. -/
theorem utf8_ofList (cs : List Char) :
    utf8 (String.ofList cs) = cs.flatMap String.utf8EncodeChar := by
  simp [utf8, List.utf8Encode]

end Text

end ChatCluster
