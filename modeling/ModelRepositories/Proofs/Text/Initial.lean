import ModelRepositories.Proofs.Text.CamelCase

/-!
How a name in camel case begins. The first word begins with the first letter of the name, so the
camel case of a name that begins with an ASCII letter begins with that letter in lower case. A name
in small letters is in camel case as it stands.
-/

namespace ModelRepositories.Text

theorem isAlpha_of_isLower {c : Char} (small : c.isLower = true) : c.isAlpha = true :=
  (Bool.or_eq_true _ _).mpr (Or.inr small)

theorem ascii_of_isAlpha {c : Char} (letter : c.isAlpha = true) : c.toNat < 0x80 := by
  rcases (Bool.or_eq_true _ _).mp letter with capital | small
  · have last : c.val ≤ 'Z'.val := (of_decide_eq_true capital).2
    exact Nat.lt_of_le_of_lt (UInt32.le_iff_toNat_le.mp last) (by decide)
  · have last : c.val ≤ 'z'.val := of_decide_eq_true ((Bool.and_eq_true _ _).mp small).2
    exact Nat.lt_of_le_of_lt (UInt32.le_iff_toNat_le.mp last) (by decide)

theorem forall_ascii {P : Char → Prop} (below : ∀ code < 0x80, P (Char.ofNat code)) {c : Char}
    (ascii : c.toNat < 0x80) : P c :=
  Char.ofNat_toNat c ▸ below c.toNat ascii

theorem isLower_toLower {c : Char} (letter : c.isAlpha = true) : c.toLower.isLower = true :=
  forall_ascii (P := fun c => c.isAlpha = true → c.toLower.isLower = true) (by decide +kernel)
    (ascii_of_isAlpha letter) letter

theorem isUpper_toUpper {c : Char} (letter : c.isAlpha = true) : c.toUpper.isUpper = true :=
  forall_ascii (P := fun c => c.isAlpha = true → c.toUpper.isUpper = true) (by decide +kernel)
    (ascii_of_isAlpha letter) letter

/-- The first word begins as what was read of it does, or as the text. -/
theorem exists_humps {last : LastLetter} {word text : List Char} {c : Char} {rest : List Char}
    (fresh : word = [] → last = .none) (begins : word ++ text = c :: rest) :
    ∃ others later, humps last word text = (c :: others) :: later := by
  fun_induction humps last word text generalizing rest with
  | case1 last word emptied =>
    rw [List.isEmpty_iff.mp emptied] at begins
    cases begins
  | case2 last word ended =>
    rw [List.append_nil] at begins
    exact ⟨rest, [], by rw [begins]⟩
  | case3 last word d => exact ⟨rest, [], by rw [begins]⟩
  | case4 last word d next following turns ih =>
    rw [← List.singleton_append, ← List.append_assoc] at begins
    obtain ⟨others, whole⟩ : ∃ others, word ++ [d] = c :: others := by
      cases word with
      | nil => exact ⟨[], by simpa using (List.cons.inj begins).1⟩
      | cons e word => exact ⟨word ++ [d], by simpa using (List.cons.inj begins).1⟩
    exact ⟨others, _, by rw [whole]⟩
  | case5 last word d next following stays turns ih =>
    cases word with
    | nil => simp [fresh rfl] at turns
    | cons e word =>
      obtain ⟨rfl, -⟩ := List.cons.inj begins
      exact ⟨word, _, rfl⟩
  | case6 last word d next following stays goesOn ih =>
    exact ih (by simp) (by simpa using begins)

theorem exists_words {c : Char} (counts : isAlphanumeric c = true) (rest : List Char) :
    ∃ others later, words (c :: rest) = (c :: others) :: later := by
  obtain ⟨stretch, stretches, cut⟩ : ∃ stretch stretches,
      splitWhere (!isAlphanumeric ·) (c :: rest) = (c :: stretch) :: stretches := by
    rw [splitWhere, if_neg (by simp [counts])]
    split
    · exact ⟨[], [], rfl⟩
    · exact ⟨_, _, rfl⟩
  obtain ⟨others, later, first⟩ :
      ∃ others later, humps .none [] (c :: stretch) = (c :: others) :: later :=
    exists_humps (fun _ => rfl) rfl
  exact ⟨others, later ++ stretches.flatMap (humps .none []), by
    rw [words, cut, List.flatMap_cons, first, List.cons_append]⟩

theorem exists_lowerWord {c : Char} (ascii : c.toNat < 0x80) (others : List Char) :
    ∃ rest, lowerWord (c :: others) = c.toLower :: rest := by
  cases others with
  | nil =>
    have notSigma : c ≠ 'Σ' := by
      rintro rfl
      exact absurd ascii (by decide)
    exact ⟨[], by rw [lowerWord, if_neg notSigma, lower_of_ascii ascii]⟩
  | cons d others =>
    exact ⟨lowerWord (d :: others), by
      rw [lowerWord, lower_of_ascii ascii, List.singleton_append]
      simp⟩

theorem exists_camelCase {name : String} {c : Char} {rest : List Char}
    (letter : c.isAlpha = true) (begins : name.toList = c :: rest) :
    ∃ others, (camelCase name).toList = c.toLower :: others := by
  have ascii := ascii_of_isAlpha letter
  have counts : isAlphanumeric c = true := by
    rw [isAlphanumeric_of_ascii ascii, Char.isAlphanum, letter, Bool.true_or]
  obtain ⟨others, later, cut⟩ := exists_words counts rest
  obtain ⟨tail, lowered⟩ := exists_lowerWord ascii others
  exact ⟨tail ++ later.flatMap titleWord, by
    simp only [camelCase, begins, cut, lowered, String.toList_ofList, List.cons_append]⟩

theorem toList_capitalize {name : String} {c : Char} {rest : List Char}
    (ascii : c.toNat < 0x80) (begins : name.toList = c :: rest) :
    (capitalize name).toList = c.toUpper :: rest := by
  simp only [capitalize, begins, upper_of_ascii ascii, String.toList_ofList, List.singleton_append]

theorem isAlphanumeric_small {c : Char} (small : c.isLower = true) : isAlphanumeric c = true := by
  have letter := isAlpha_of_isLower small
  rw [isAlphanumeric_of_ascii (ascii_of_isAlpha letter), Char.isAlphanum, letter, Bool.true_or]

theorem isUppercase_small {c : Char} (small : c.isLower = true) : isUppercase c = false := by
  have ascii := ascii_of_isAlpha (isAlpha_of_isLower small)
  rw [isUppercase_of_ascii ascii]
  exact forall_ascii (P := fun c => c.isLower = true → c.isUpper = false) (by decide +kernel)
    ascii small

theorem lower_small {c : Char} (small : c.isLower = true) : lower c = [c] := by
  have ascii := ascii_of_isAlpha (isAlpha_of_isLower small)
  rw [lower_of_ascii ascii]
  exact forall_ascii (P := fun c => c.isLower = true → [c.toLower] = [c]) (by decide +kernel)
    ascii small

theorem humps_small {last : LastLetter} {word text : List Char}
    (small : ∀ c ∈ text, c.isLower = true) (nonempty : word ++ text ≠ []) :
    humps last word text = [word ++ text] := by
  fun_induction humps last word text with
  | case1 last word emptied => simp [List.isEmpty_iff.mp emptied] at nonempty
  | case2 => simp
  | case3 last word c => rfl
  | case4 last word c next rest turns ih =>
    rw [isUppercase_small (small next (by simp))] at turns
    cases turns.2
  | case5 last word c next rest stays turns ih =>
    rw [isUppercase_small (small c (by simp))] at turns
    cases turns.2.1
  | case6 last word c next rest stays goesOn ih =>
    rw [ih (fun d member => small d (List.mem_cons_of_mem c member)) (by simp)]
    simp

theorem lowerWord_small {text : List Char} (small : ∀ c ∈ text, c.isLower = true) :
    lowerWord text = text := by
  fun_induction lowerWord text with
  | case1 => rfl
  | case2 => exact absurd (small 'Σ' (by simp)) (by decide)
  | case3 c other => exact lower_small (small c (by simp))
  | case4 c rest inner ih =>
    rw [lower_small (small c (by simp)),
      ih (fun d member => small d (List.mem_cons_of_mem c member)), List.singleton_append]

theorem camelCase_small {name : String} (small : ∀ c ∈ name.toList, c.isLower = true) :
    camelCase name = name := by
  have whole : splitWhere (!isAlphanumeric ·) name.toList = [name.toList] := by
    rw [splitWhere_eq_splitOnP, List.splitOnP_eq_singleton]
    intro c member
    simp [isAlphanumeric_small (small c member)]
  by_cases empty : name.toList = []
  · rw [String.toList_eq_nil_iff.mp empty]
    rfl
  · have cut : words name.toList = [name.toList] := by
      rw [words, whole, List.flatMap_singleton, humps_small small (by simpa using empty)]
      rfl
    rw [camelCase, cut]
    simp [lowerWord_small small]

end ModelRepositories.Text
