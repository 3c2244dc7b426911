import ModelRepositories.Json.Printer
import ModelRepositories.Json.Reader

/-!
A text is read back as it was written: each character from its escape, and the closing quote is not
taken for one of the text.
-/

namespace ModelRepositories.Json

theorem hexValue_hexDigit : ∀ n < 16, hexValue? (Text.hexDigit n) = some n := by
  decide

theorem readEscape_control {c : Char} (control : c.toNat < 0x20) (rest : List Char) :
    readEscape ('u' :: '0' :: '0' :: Text.hexDigit (c.toNat / 16) ::
      Text.hexDigit (c.toNat % 16) :: rest) = .ok (c, rest) := by
  have high := hexValue_hexDigit (c.toNat / 16) (by omega)
  have low := hexValue_hexDigit (c.toNat % 16) (by omega)
  have hex : readHex ('0' :: '0' :: Text.hexDigit (c.toNat / 16) ::
      Text.hexDigit (c.toNat % 16) :: rest) = .ok (c.toNat, rest) := by
    have zero : hexValue? '0' = some 0 := rfl
    unfold readHex
    dsimp only
    rw [zero, high, low]
    show Except.ok (((0 * 16 + 0) * 16 + c.toNat / 16) * 16 + c.toNat % 16, rest) = _
    rw [show ((0 * 16 + 0) * 16 + c.toNat / 16) * 16 + c.toNat % 16 = c.toNat by omega]
  have notLow : isLowSurrogate c.toNat = false := by
    rw [isLowSurrogate, decide_eq_false (by omega), Bool.false_and]
  have notHigh : isHighSurrogate c.toNat = false := by
    rw [isHighSurrogate, decide_eq_false (by omega), Bool.false_and]
  show readCodePoint _ = _
  unfold readCodePoint
  rw [hex]
  show (if isLowSurrogate c.toNat = true then _ else _) = _
  rw [notLow, if_neg Bool.false_ne_true]
  show (if isHighSurrogate c.toNat = true then _ else _) = _
  rw [notHigh, if_neg Bool.false_ne_true, Char.ofNat_toNat]
  rfl

/-- How a character of a text is written. -/
inductive Escaped (c : Char) : List Char → Prop
  | plain (quote : c ≠ '"') (backslash : c ≠ '\\') (visible : 0x20 ≤ c.toNat) : Escaped c [c]
  | short {letter : Char} (visible : 0x20 ≤ letter.toNat)
    (meant : ∀ rest, readEscape (letter :: rest) = .ok (c, rest)) : Escaped c ['\\', letter]
  | control (control : c.toNat < 0x20) : Escaped c ['\\', 'u', '0', '0',
    Text.hexDigit (c.toNat / 16), Text.hexDigit (c.toNat % 16)]

theorem escaped_escapeChar (c : Char) : Escaped c (escapeChar c) := by
  have short {d letter : Char} (same : c = d) (visible : 0x20 ≤ letter.toNat)
      (meant : ∀ rest, readEscape (letter :: rest) = .ok (d, rest)) : Escaped c ['\\', letter] :=
    same ▸ .short visible meant
  unfold escapeChar
  iterate 7
    split
    · next same => exact short same (by decide) fun rest => rfl
  split
  · next control => exact .control control
  · next quote backslash _ _ _ _ _ control =>
    exact .plain quote backslash (Nat.not_lt.mp control)

theorem readCharacters_escape {bound : Nat} {c : Char} {escape rest : List Char}
    (read : readEscape (escape ++ rest) = .ok (c, rest)) :
    readCharacters (bound + 1) ('\\' :: escape ++ rest) =
      (readCharacters bound rest).map (Prod.map (c :: ·) id) := by
  show (readEscape (escape ++ rest) >>= _) = _
  rw [read]
  show (readCharacters bound rest >>= _) = _
  cases readCharacters bound rest <;> rfl

theorem readCharacters_escaped {c : Char} {written : List Char} (escaped : Escaped c written)
    (bound : Nat) (rest : List Char) :
    readCharacters (bound + 1) (written ++ rest) =
      (readCharacters bound rest).map (Prod.map (c :: ·) id) := by
  cases escaped with
  | plain quote backslash visible =>
    have solid : ¬ c.toNat < 0x20 := Nat.not_lt.mpr visible
    refine (if_neg quote).trans ((if_neg backslash).trans ((if_neg solid).trans ?_))
    show (readCharacters bound rest >>= _) = _
    cases readCharacters bound rest <;> rfl
  | short visible meant => exact readCharacters_escape (meant rest)
  | control control => exact readCharacters_escape (readEscape_control control rest)

theorem readCharacters_flatMap {bound : Nat} {characters : List Char}
    (room : characters.length < bound) (rest : List Char) :
    readCharacters bound (characters.flatMap escapeChar ++ '"' :: rest) =
      .ok (characters, rest) := by
  induction characters generalizing bound with
  | nil =>
    obtain ⟨bound, rfl⟩ := Nat.exists_eq_add_one.mpr (Nat.zero_lt_of_lt room)
    rfl
  | cons c characters ih =>
    obtain ⟨bound, rfl⟩ := Nat.exists_eq_add_one.mpr (Nat.zero_lt_of_lt room)
    rw [List.flatMap_cons, List.append_assoc, readCharacters_escaped (escaped_escapeChar c),
      ih (Nat.lt_of_succ_lt_succ room)]
    rfl

theorem readText_escaped {bound : Nat} {text : String} (room : text.toList.length < bound)
    (rest : List Char) :
    readText bound (text.toList.flatMap escapeChar ++ '"' :: rest) = .ok (text, rest) := by
  unfold readText
  rw [readCharacters_flatMap room]
  show Except.ok (String.ofList text.toList, rest) = _
  rw [String.ofList_toList]

theorem length_escaped {c : Char} {written : List Char} (escaped : Escaped c written) :
    0 < written.length := by
  cases escaped <;> exact Nat.succ_pos _

theorem length_le_flatMap (characters : List Char) :
    characters.length ≤ (characters.flatMap escapeChar).length := by
  induction characters with
  | nil => exact Nat.le_refl 0
  | cons c characters ih =>
    have one := length_escaped (escaped_escapeChar c)
    rw [List.flatMap_cons, List.length_append, List.length_cons]
    omega

end ModelRepositories.Json
