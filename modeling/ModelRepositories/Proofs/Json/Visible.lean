import ModelRepositories.Proofs.Json.Float
import ModelRepositories.Proofs.Json.Quoting

/-!
The text of a value holds no control characters: in a string they are escaped, and everything else
is written in digits, letters and signs. So it stays on one line.
-/

namespace ModelRepositories.Json

/-- No control characters of ASCII. -/
def Visible (text : List Char) : Prop :=
  ∀ c ∈ text, 0x20 ≤ c.toNat

theorem visible_append {left right : List Char} (first : Visible left) (second : Visible right) :
    Visible (left ++ right) := by
  intro c member
  rcases List.mem_append.mp member with member | member
  · exact first c member
  · exact second c member

theorem visible_cons {c : Char} (sign : 0x20 ≤ c.toNat) {rest : List Char} (others : Visible rest) :
    Visible (c :: rest) := by
  intro d member
  rcases List.mem_cons.mp member with rfl | member
  · exact sign
  · exact others d member

theorem visible_nil : Visible [] := by
  intro c member
  cases member

theorem visible_of_all {text : List Char} (all : text.all (0x20 ≤ ·.toNat) = true) :
    Visible text := by
  intro c member
  exact of_decide_eq_true (List.all_eq_true.mp all c member)

theorem visible_of_isDigits {digits : List Char} (all : IsDigits digits) : Visible digits := by
  intro c member
  have := isDigit_iff.mp (all c member)
  omega

theorem visible_text {numeral : Numeral} (proper : numeral.Proper) : Visible numeral.text := by
  unfold Numeral.text Numeral.fractionText Numeral.exponentText
  have whole := visible_of_isDigits proper.whole
  refine visible_append ?_ (visible_append whole (visible_append ?_ ?_))
  · split
    · exact visible_cons (by decide) visible_nil
    · exact visible_nil
  · split
    · exact visible_nil
    · exact visible_cons (by decide) (visible_of_isDigits proper.fraction)
  · split
    · exact visible_nil
    · next negative digits written =>
      have exponent := visible_of_isDigits (proper.exponent negative digits written).1
      refine visible_cons (by decide) (visible_cons ?_ exponent)
      split <;> decide

theorem visible_escaped {c : Char} {written : List Char} (escaped : Escaped c written) :
    Visible written := by
  have hex : ∀ n < 16, 0x20 ≤ (Text.hexDigit n).toNat := by decide
  cases escaped with
  | plain quote backslash visible => exact visible_cons visible visible_nil
  | short visible meant => exact visible_cons (by decide) (visible_cons visible visible_nil)
  | control control =>
    have front : Visible ['\\', 'u', '0', '0'] := visible_of_all (by decide)
    exact visible_append front
      (visible_cons (hex _ (by omega)) (visible_cons (hex _ (by omega)) visible_nil))

theorem visible_printText (text : String) : Visible (printText text) := by
  refine visible_cons (by decide) (visible_append ?_ (visible_cons (by decide) visible_nil))
  intro c member
  obtain ⟨d, -, member⟩ := List.mem_flatMap.mp member
  exact visible_escaped (escaped_escapeChar d) c member

theorem visible_printFloat (x : Float) : Visible (printFloat x) := by
  cases finite : x.isFinite with
  | true =>
    obtain ⟨numeral, proper, -, text⟩ := printFloat_numeral finite
    exact text ▸ visible_text proper
  | false =>
    have word : printFloat x = ['n', 'u', 'l', 'l'] := if_neg (by rw [finite]; decide)
    rw [word]
    exact visible_of_all (by decide)

theorem visible_printInt (n : Int) : Visible (toString n).toList := by
  rw [← text_ofInt]
  exact visible_text (proper_ofInt n)

mutual

theorem visible_printValue (value : Value) : Visible (printValue value) := by
  cases value with
  | null => exact visible_of_all (by decide)
  | bool b => cases b <;> exact visible_of_all (by decide)
  | int n => exact visible_printInt n
  | float x => exact visible_printFloat x
  | str text => exact visible_printText text
  | arr items =>
    cases items with
    | nil => exact visible_of_all (by decide)
    | cons item items =>
      exact visible_cons (by decide) (visible_append (visible_printValue item)
        (visible_printItems items))
  | obj members =>
    cases members with
    | nil => exact visible_of_all (by decide)
    | cons member members =>
      obtain ⟨key, value⟩ := member
      exact visible_append (visible_cons (by decide) (visible_append (visible_printText key)
        (visible_cons (by decide) (visible_printValue value)))) (visible_printMembers members)

theorem visible_printItems (items : List Value) : Visible (printItems items) := by
  cases items with
  | nil => exact visible_cons (by decide) visible_nil
  | cons item items =>
    exact visible_cons (by decide) (visible_append (visible_printValue item)
      (visible_printItems items))

theorem visible_printMembers (members : List (String × Value)) :
    Visible (printMembers members) := by
  cases members with
  | nil => exact visible_cons (by decide) visible_nil
  | cons member members =>
    obtain ⟨key, value⟩ := member
    exact visible_append (visible_cons (by decide) (visible_append (visible_printText key)
      (visible_cons (by decide) (visible_printValue value)))) (visible_printMembers members)

end

end ModelRepositories.Json
