/-
Bytes of a text are read as the text they are, also where anything would do for
one (`lossy_toByteArray`). So what stands at a path need not say what bytes a
file has: the text it becomes there follows from its bytes in the same way
whether or not they are a text (`Entry.lossy?_ofBytes`).
-/
import QuerySnippet.Workspace.Entry

namespace QuerySnippet.Text

theorem size_utf8Encode_singleton (c : Char) : [c].utf8Encode.size = c.utf8Size := by
  rw [List.utf8Encode_singleton, List.size_toByteArray, String.length_utf8EncodeChar]

/-- Every character takes up a byte at least. -/
theorem length_le_size_utf8Encode (cs : List Char) : cs.length ≤ cs.utf8Encode.size := by
  induction cs with
  | nil => exact Nat.zero_le _
  | cons c cs ih =>
    have hpos := c.utf8Size_pos
    rw [List.utf8Encode_cons, ByteArray.size_append, size_utf8Encode_singleton, List.length_cons]
    omega

theorem utf8DecodeChar?_append_utf8Encode_cons (before : ByteArray) (c : Char) (cs : List Char) :
    (before ++ (c :: cs).utf8Encode).utf8DecodeChar? before.size = some c := by
  rw [ByteArray.utf8DecodeChar?_eq_utf8DecodeChar?_extract, ByteArray.size_append,
    ByteArray.extract_append_eq_right rfl rfl, List.utf8DecodeChar?_utf8Encode_cons]

theorem lossyFrom_append_utf8Encode (cs : List Char) : ∀ {limit : Nat} (before : ByteArray),
    cs.length ≤ limit → lossyFrom (before ++ cs.utf8Encode) limit before.size = cs := by
  induction cs with
  | nil =>
    intro limit before _
    cases limit <;> simp [lossyFrom]
  | cons c cs ih =>
    intro limit before hlimit
    obtain ⟨limit, rfl⟩ : ∃ n, limit = n + 1 := ⟨limit - 1, by simp at hlimit; omega⟩
    have hsize := size_utf8Encode_singleton c
    have hstep : before ++ (c :: cs).utf8Encode = (before ++ [c].utf8Encode) ++ cs.utf8Encode := by
      rw [List.utf8Encode_cons, ByteArray.append_assoc]
    have hmore : ¬ (before ++ (c :: cs).utf8Encode).size ≤ before.size := by
      have hpos := c.utf8Size_pos
      rw [hstep, ByteArray.size_append, ByteArray.size_append]
      omega
    have hnext : before.size + c.utf8Size = (before ++ [c].utf8Encode).size := by
      rw [ByteArray.size_append, hsize]
    rw [lossyFrom, if_neg hmore, utf8DecodeChar?_append_utf8Encode_cons]
    simp only [hnext, hstep]
    rw [ih _ (Nat.le_of_succ_le_succ hlimit)]

/-- A text is read from its bytes as it is. -/
theorem lossy_toByteArray (s : String) : lossy s.toByteArray = s := by
  have hread := lossyFrom_append_utf8Encode s.toList ByteArray.empty
    (length_le_size_utf8Encode s.toList)
  rw [ByteArray.empty_append, ByteArray.size_empty, String.utf8Encode_toList] at hread
  rw [lossy, hread, String.ofList_toList]

end QuerySnippet.Text

namespace QuerySnippet.Entry

/-- **Any bytes will do where anything does for a text**, and are read as what they become. -/
theorem lossy?_ofBytes (bytes : ByteArray) :
    (ofBytes bytes).lossy? = some (Text.lossy bytes) := by
  unfold ofBytes
  split
  · next content hcontent =>
    have hbytes : content.toByteArray = bytes := by
      rw [String.fromUTF8?] at hcontent
      split at hcontent
      · cases hcontent
        rfl
      · cases hcontent
    rw [← hbytes, Text.lossy_toByteArray]
    rfl
  · rfl

end QuerySnippet.Entry
