import Mathlib.Data.List.Basic

/-! The bytes of a text in UTF-8, and the text that some bytes are. -/

namespace Utf8

def encode (text : List Char) : List UInt8 := text.flatMap String.utf8EncodeChar

/-- `none` when the bytes are not UTF-8. -/
def decode (bytes : List UInt8) : Option (List Char) := (String.fromUTF8? ⟨bytes.toArray⟩).map (·.toList)

variable {text text' : List Char} {bytes rest : List UInt8}

theorem encode_append (text text' : List Char) : encode (text ++ text') = encode text ++ encode text' :=
  List.flatMap_append

theorem encode_cons (c : Char) (text : List Char) : encode (c :: text) = String.utf8EncodeChar c ++ encode text :=
  List.flatMap_cons

theorem encode_toList (s : String) : encode s.toList = s.toByteArray.data.toList := by
  rw [← String.utf8Encode_toList, List.utf8Encode, List.data_toByteArray, List.toList_toArray]
  rfl

theorem length_encode (text : List Char) : (encode text).length = (String.ofList text).utf8ByteSize := by
  rw [← String.toList_ofList (l := text), encode_toList, String.toList_ofList]
  rfl

theorem decode_encode (text : List Char) : decode (encode text) = some text := by
  rw [← String.toList_ofList (l := text), encode_toList, decode]
  simp only [Array.toArray_toList]
  unfold String.fromUTF8?
  rw [dif_pos (String.ofList text).isValidUTF8]
  rfl

theorem eq_encode_of_decode (h : decode bytes = some text) : bytes = encode text := by
  obtain ⟨s, hs, rfl⟩ := Option.map_eq_some_iff.mp h
  unfold String.fromUTF8? at hs
  split at hs
  · rw [encode_toList, ← Option.some.inj hs]
    rfl
  · cases hs

/-- No character's bytes start the bytes of another, so a text whose bytes start those of another starts it. -/
theorem prefix_of_encode (h : encode text <+: encode text') : text <+: text' := by
  obtain ⟨rest, hrest⟩ := h
  refine List.isPrefix_of_utf8Encode_append_eq_utf8Encode ⟨rest.toArray⟩ ?_
  apply ByteArray.ext
  apply Array.toList_inj.mp
  rw [ByteArray.data_append, Array.toList_append, List.utf8Encode, List.utf8Encode, List.data_toByteArray,
    List.data_toByteArray]
  exact hrest

theorem encode_cons_ascii {c : Char} (h : c.toNat < 128) : encode (c :: text) = c.val.toUInt8 :: encode text := by
  have hsize : c.utf8Size = 1 := by
    rw [Char.utf8Size, if_pos]
    rw [UInt32.le_iff_toNat_le]
    exact Nat.le_of_lt_succ h
  rw [encode_cons, String.utf8EncodeChar_eq_singleton hsize]
  rfl

theorem encode_ascii (h : ∀ c ∈ text, c.toNat < 128) : encode text = text.map fun c => c.val.toUInt8 := by
  induction text with
  | nil => rfl
  | cons c text ih =>
    rw [List.forall_mem_cons] at h
    rw [encode_cons_ascii h.1, ih h.2, List.map_cons]

end Utf8
