import ModelRepositories.Text.Words

/-!
Which characters a name in camel case is made of: letters and digits, and whatever the case mappings
send those to. Among the ASCII characters that is letters and digits only, so no camel case holds a
slash, a dot or a NUL.
-/

namespace ModelRepositories.Text

/-- Letters and digits of ASCII, and all that is not ASCII. -/
def isWordChar (c : Char) : Bool :=
  0x80 ≤ c.toNat || c.isAlphanum

def CaseRun.staysWordChar (run : CaseRun) : Bool :=
  if run.first = run.last then isWordChar (Char.ofNat run.image)
  else 0x80 ≤ run.image && run.image + (run.last - run.first) < 0xD800 ||
    0xE000 ≤ run.image && run.image + (run.last - run.first) < 0x110000

theorem lowerRuns_stay : lowerRuns.all CaseRun.staysWordChar = true := by
  decide +kernel

theorem upperRuns_stay : upperRuns.all CaseRun.staysWordChar = true := by
  decide +kernel

theorem lowerExpansions_stay :
    lowerExpansions.all (fun entry => entry.2.all (isWordChar <| Char.ofNat ·)) = true := by
  decide +kernel

theorem upperExpansions_stay :
    upperExpansions.all (fun entry => entry.2.all (isWordChar <| Char.ofNat ·)) = true := by
  decide +kernel

theorem ascii_stays : ∀ code < 0x80, isWordChar (Char.ofNat code) = true →
    isWordChar (Char.ofNat code).toLower = true ∧ isWordChar (Char.ofNat code).toUpper = true := by
  decide +kernel

theorem isWordChar_apply {run : CaseRun} (stays : run.staysWordChar = true) {code : Nat}
    (member : run.includes code = true) : isWordChar (run.apply code) = true := by
  simp only [Run.includes, Bool.and_eq_true, decide_eq_true_eq] at member
  obtain ⟨⟨above, below⟩, -⟩ := member
  unfold CaseRun.staysWordChar at stays
  split at stays
  · next single =>
    have first : code - run.first = 0 := by omega
    rwa [CaseRun.apply, first, Nat.add_zero]
  · have valid : (run.image + (code - run.first)).isValidChar := by
      simp only [Bool.or_eq_true, Bool.and_eq_true, decide_eq_true_eq] at stays
      unfold Nat.isValidChar
      omega
    have image : (run.apply code).toNat = run.image + (code - run.first) := by
      rw [CaseRun.apply, Char.ofNat, dif_pos valid]
      rfl
    simp only [Bool.or_eq_true, Bool.and_eq_true, decide_eq_true_eq] at stays
    have high : 0x80 ≤ (run.apply code).toNat := by omega
    simp [isWordChar, high]

theorem isWordChar_mapCase {expansions : List (Nat × List Nat)} {runs : List CaseRun}
    (expansionsStay :
      expansions.all (fun entry => entry.2.all (isWordChar <| Char.ofNat ·)) = true)
    (runsStay : runs.all CaseRun.staysWordChar = true) {c : Char} (proper : isWordChar c = true) :
    ∀ image ∈ mapCase expansions runs c, isWordChar image = true := by
  intro image member
  unfold mapCase at member
  split at member
  · next images found =>
    obtain ⟨code, inside, rfl⟩ := List.mem_map.mp member
    obtain ⟨before, after, whole, -⟩ := List.lookup_eq_some_iff.mp found
    have entry := List.all_eq_true.mp expansionsStay (c.toNat, images) (by simp [whole])
    exact List.all_eq_true.mp entry code inside
  · split at member
    · next run found =>
      rw [List.mem_singleton.mp member]
      exact isWordChar_apply
        (List.all_eq_true.mp runsStay run (List.mem_of_find?_eq_some found))
        (by simpa using List.find?_some found)
    · rwa [List.mem_singleton.mp member]

theorem isWordChar_of_isAlphanumeric {c : Char} (member : isAlphanumeric c = true) :
    isWordChar c = true := by
  by_cases ascii : c.toNat < 0x80
  · rw [isAlphanumeric_of_ascii ascii] at member
    simp [isWordChar, member]
  · simp [isWordChar, Nat.le_of_not_lt ascii]

theorem isWordChar_lower {c : Char} (proper : isWordChar c = true) :
    ∀ image ∈ lower c, isWordChar image = true := by
  by_cases ascii : c.toNat < 0x80
  · have stays := ascii_stays c.toNat ascii
    rw [Char.ofNat_toNat] at stays
    rw [lower_of_ascii ascii]
    simpa using (stays proper).1
  · rw [lower, if_neg ascii]
    exact isWordChar_mapCase lowerExpansions_stay lowerRuns_stay proper

theorem isWordChar_upper {c : Char} (proper : isWordChar c = true) :
    ∀ image ∈ upper c, isWordChar image = true := by
  by_cases ascii : c.toNat < 0x80
  · have stays := ascii_stays c.toNat ascii
    rw [Char.ofNat_toNat] at stays
    rw [upper_of_ascii ascii]
    simpa using (stays proper).2
  · rw [upper, if_neg ascii]
    exact isWordChar_mapCase upperExpansions_stay upperRuns_stay proper

theorem mem_humps {last : LastLetter} {word text piece : List Char}
    (member : piece ∈ humps last word text) {c : Char} (inside : c ∈ piece) :
    c ∈ word ∨ c ∈ text := by
  fun_induction humps last word text with
  | case1 => cases member
  | case2 last word ended => exact Or.inl (List.mem_singleton.mp member ▸ inside)
  | case3 last word d =>
    rw [List.mem_singleton.mp member, List.mem_append] at inside
    exact inside
  | case4 last word d next rest turns ih =>
    rcases List.mem_cons.mp member with rfl | later
    · rcases List.mem_append.mp inside with read | here
      · exact Or.inl read
      · exact Or.inr (by simpa using Or.inl (List.mem_singleton.mp here))
    · rcases ih later with absent | read
      · cases absent
      · exact Or.inr (List.mem_cons_of_mem d read)
  | case5 last word d next rest stays turns ih =>
    rcases List.mem_cons.mp member with rfl | later
    · exact Or.inl inside
    · rcases ih later with here | read
      · exact Or.inr (by simpa using Or.inl (List.mem_singleton.mp here))
      · exact Or.inr (List.mem_cons_of_mem d read)
  | case6 last word d next rest stays goesOn ih =>
    rcases ih member with before | read
    · rcases List.mem_append.mp before with before | here
      · exact Or.inl before
      · exact Or.inr (by simpa using Or.inl (List.mem_singleton.mp here))
    · exact Or.inr (List.mem_cons_of_mem d read)

theorem mem_of_mem_splitWhere {α : Type} {separates : α → Bool} {list piece : List α}
    (member : piece ∈ splitWhere separates list) {a : α} (inside : a ∈ piece) : a ∈ list := by
  fun_induction splitWhere separates list generalizing piece with
  | case1 =>
    rw [List.mem_singleton.mp member] at inside
    cases inside
  | case2 b rest found ih =>
    rcases List.mem_cons.mp member with rfl | later
    · cases inside
    · exact List.mem_cons_of_mem b (ih later inside)
  | case3 b rest kept cut ih =>
    rw [List.mem_singleton.mp member] at inside
    rw [List.mem_singleton.mp inside]
    exact List.mem_cons_self
  | case4 b rest kept first pieces cut ih =>
    rcases List.mem_cons.mp member with rfl | later
    · rcases List.mem_cons.mp inside with rfl | deeper
      · exact List.mem_cons_self
      · exact List.mem_cons_of_mem b (ih (cut ▸ List.mem_cons_self) deeper)
    · exact List.mem_cons_of_mem b (ih (cut ▸ List.mem_cons_of_mem first later) inside)

theorem mem_words {text piece : List Char} (member : piece ∈ words text) {c : Char}
    (inside : c ∈ piece) : c ∈ text ∧ isAlphanumeric c = true := by
  obtain ⟨stretch, present, cut⟩ := List.mem_flatMap.mp member
  rcases mem_humps cut inside with absent | read
  · cases absent
  · have kept := splitWhere_free (!isAlphanumeric ·) text stretch present c read
    exact ⟨mem_of_mem_splitWhere present read, by simpa using kept⟩

section Closed

variable {P : Char → Prop} (lowers : ∀ c, P c → ∀ image ∈ lower c, P image)
  (uppers : ∀ c, P c → ∀ image ∈ upper c, P image) (sigma : P 'Σ' → P 'ς')
include lowers sigma

theorem forall_lowerWord {word : List Char} (proper : ∀ c ∈ word, P c) :
    ∀ c ∈ lowerWord word, P c := by
  fun_induction lowerWord word with
  | case1 => exact proper
  | case2 =>
    intro image member
    rw [List.mem_singleton.mp member]
    exact sigma (proper _ List.mem_cons_self)
  | case3 c other => exact lowers c (proper c (by simp))
  | case4 c rest inner ih =>
    intro image member
    rcases List.mem_append.mp member with first | later
    · exact lowers c (proper c (by simp)) image first
    · exact ih (fun d inside => proper d (List.mem_cons_of_mem c inside)) image later

include uppers

theorem forall_titleWord {word : List Char} (proper : ∀ c ∈ word, P c) :
    ∀ c ∈ titleWord word, P c := by
  cases word with
  | nil => exact proper
  | cons c rest =>
    intro image member
    rcases List.mem_append.mp member with first | later
    · exact uppers c (proper c (by simp)) image first
    · exact forall_lowerWord lowers sigma (fun d inside => proper d (List.mem_cons_of_mem c inside))
        image later

theorem forall_camelCase {name : String}
    (letters : ∀ c ∈ name.toList, isAlphanumeric c = true → P c) :
    ∀ c ∈ (camelCase name).toList, P c := by
  unfold camelCase
  split
  · simp
  · next first others cut =>
    have proper : ∀ piece ∈ first :: others, ∀ c ∈ piece, P c := by
      intro piece member c inside
      obtain ⟨present, counts⟩ := mem_words (cut ▸ member) inside
      exact letters c present counts
    intro image member
    rw [String.toList_ofList, List.mem_append, List.mem_flatMap] at member
    rcases member with member | ⟨piece, present, member⟩
    · exact forall_lowerWord lowers sigma (proper first (by simp)) image member
    · exact forall_titleWord lowers uppers sigma
        (proper piece (List.mem_cons_of_mem first present)) image member

end Closed

/-- No character of a camel case name is an ASCII character other than a letter or a digit. -/
theorem isWordChar_camelCase (name : String) :
    ∀ c ∈ (camelCase name).toList, isWordChar c = true :=
  forall_camelCase (fun _ => isWordChar_lower) (fun _ => isWordChar_upper) (fun _ => by decide)
    fun _ _ => isWordChar_of_isAlphanumeric

end ModelRepositories.Text
