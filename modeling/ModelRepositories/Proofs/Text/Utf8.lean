/-!
The bytes of a text. They are those of its characters one after another, they give the text back,
and a character from U+0020 on has none below 0x20.
-/

namespace ModelRepositories.Text

theorem fromUTF8?_toUTF8 (text : String) : String.fromUTF8? text.toUTF8 = some text := by
  rw [String.fromUTF8?, String.toUTF8_eq_toByteArray, dif_pos text.isValidUTF8]
  rfl

theorem toList_loop (bytes : ByteArray) (i : Nat) (done : List UInt8) :
    ByteArray.toList.loop bytes i done = done.reverse ++ bytes.data.toList.drop i := by
  induction left : bytes.size - i generalizing i done with
  | zero =>
    have beyond : bytes.data.toList.length ≤ i := by
      have : bytes.size ≤ i := by omega
      simpa using this
    rw [ByteArray.toList.loop, if_neg (by omega), List.drop_eq_nil_of_le beyond, List.append_nil]
  | succ left ih =>
    have inside : i < bytes.data.toList.length := by
      have : i < bytes.size := by omega
      simpa using this
    have byte : bytes.get! i = bytes.data.toList[i] := by
      rw [Array.getElem_toList]
      exact getElem!_pos bytes.data i (by simpa using inside)
    rw [ByteArray.toList.loop, if_pos (by omega), ih _ _ (by omega),
      List.drop_eq_getElem_cons inside, byte, List.reverse_cons, List.append_assoc]
    rfl

theorem toList_eq (bytes : ByteArray) : bytes.toList = bytes.data.toList :=
  toList_loop bytes 0 []

theorem toList_toUTF8 (text : String) :
    text.toUTF8.toList = text.toList.flatMap String.utf8EncodeChar := by
  have encoded : text.toUTF8 = (text.toList.flatMap String.utf8EncodeChar).toByteArray :=
    String.utf8Encode_toList.symm
  rw [toList_eq, encoded, List.toList_data_toByteArray]

theorem fromUTF8?_eq_some {bytes : List UInt8} {text : String} :
    String.fromUTF8? ⟨bytes.toArray⟩ = some text ↔
      bytes = text.toList.flatMap String.utf8EncodeChar := by
  constructor
  · intro whole
    unfold String.fromUTF8? at whole
    split at whole
    · next valid =>
      cases whole
      rw [← toList_toUTF8, toList_eq]
      rfl
    · cases whole
  · rintro rfl
    rw [← toList_toUTF8, toList_eq, Array.toArray_toList]
    exact fromUTF8?_toUTF8 text

theorem utf8EncodeChar_ascii {c : Char} (ascii : c.toNat < 0x80) :
    String.utf8EncodeChar c = [UInt8.ofNat c.toNat] := by
  have small : c.val.toNat ≤ 127 := Nat.le_of_lt_succ ascii
  delta String.utf8EncodeChar
  dsimp only
  rw [if_pos small]
  rfl

theorem utf8EncodeChar_high {c : Char} (high : 0x80 ≤ c.toNat) :
    ∀ byte ∈ String.utf8EncodeChar c, 0x80 ≤ byte.toNat := by
  have number : c.val.toNat = c.toNat := rfl
  have byte {n : Nat} (low : 0x80 ≤ n) (high : n < 0x100) : 0x80 ≤ (UInt8.ofNat n).toNat := by
    rw [UInt8.toNat_ofNat', Nat.mod_eq_of_lt high]
    exact low
  intro found member
  delta String.utf8EncodeChar at member
  dsimp only at member
  split at member
  · omega
  split at member
  · simp only [List.mem_cons, List.not_mem_nil, or_false] at member
    rcases member with rfl | rfl <;> exact byte (by omega) (by omega)
  split at member
  · simp only [List.mem_cons, List.not_mem_nil, or_false] at member
    rcases member with rfl | rfl | rfl <;> exact byte (by omega) (by omega)
  · simp only [List.mem_cons, List.not_mem_nil, or_false] at member
    rcases member with rfl | rfl | rfl | rfl <;> exact byte (by omega) (by omega)

theorem utf8EncodeChar_visible {c : Char} (sign : 0x20 ≤ c.toNat) :
    ∀ byte ∈ String.utf8EncodeChar c, 0x20 ≤ byte.toNat := by
  intro byte member
  by_cases ascii : c.toNat < 0x80
  · rw [utf8EncodeChar_ascii ascii, List.mem_singleton] at member
    rw [member, UInt8.toNat_ofNat', Nat.mod_eq_of_lt (by omega)]
    exact sign
  · have high := utf8EncodeChar_high (Nat.le_of_not_lt ascii) byte member
    omega

/-- A text whose last byte is one of ASCII ends in the character of that byte. -/
theorem exists_of_ends_ascii {text : List Char} {front : List UInt8} {byte : UInt8}
    (ascii : byte.toNat < 0x80)
    (ends : text.flatMap String.utf8EncodeChar = front ++ [byte]) :
    ∃ chars, text = chars ++ [Char.ofNat byte.toNat] ∧
      chars.flatMap String.utf8EncodeChar = front := by
  rcases List.eq_nil_or_concat text with rfl | ⟨chars, c, rfl⟩
  · simp at ends
  · rw [List.concat_eq_append, List.flatMap_append, List.flatMap_singleton] at ends
    have last : byte ∈ String.utf8EncodeChar c := by
      have nonempty : String.utf8EncodeChar c ≠ [] := String.utf8EncodeChar_ne_nil
      have same := congrArg List.getLast? ends
      rw [List.getLast?_concat, List.getLast?_append,
        List.getLast?_eq_some_getLast nonempty] at same
      rw [← Option.some.inj same]
      exact List.getLast_mem nonempty
    have small : c.toNat < 0x80 := by
      apply Nat.lt_of_not_le
      intro high
      have above := utf8EncodeChar_high high byte last
      omega
    rw [utf8EncodeChar_ascii small] at ends last
    have number : c.toNat = byte.toNat := by
      rw [List.mem_singleton.mp last, UInt8.toNat_ofNat', Nat.mod_eq_of_lt (by omega)]
    refine ⟨chars, ?_, (List.append_inj' ends rfl).1⟩
    rw [← number, Char.ofNat_toNat, List.concat_eq_append]

end ModelRepositories.Text
