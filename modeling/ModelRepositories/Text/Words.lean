import ModelRepositories.Text.Alphanumeric
import ModelRepositories.Text.CaseMap
import ModelRepositories.Text.LetterCase
import ModelRepositories.Text.Split

/-!
Words of an identifier and its lower camel case. A word ends where a character is not alphanumeric,
where a small letter is followed by a capital, and before the last capital of a run of capitals that
goes on with a small letter: `HTTPServer_v2` has the words `HTTP`, `Server` and `v2`.
-/

namespace ModelRepositories.Text

/-- The case of the last letter of the word that is being read; digits keep it. -/
inductive LastLetter
  | none
  | small
  | capital
  deriving DecidableEq

def LastLetter.after (last : LastLetter) (c : Char) : LastLetter :=
  if isLowercase c then .small else if isUppercase c then .capital else last

/-- Cuts an alphanumeric stretch; `word` is what has been read of the current word. -/
def humps (last : LastLetter) (word : List Char) : List Char → List (List Char)
  | [] => if word.isEmpty then [] else [word]
  | [c] => [word ++ [c]]
  | c :: next :: rest =>
    if last.after c = .small ∧ isUppercase next then
      (word ++ [c]) :: humps .none [] (next :: rest)
    else if last = .capital ∧ isUppercase c ∧ isLowercase next then
      word :: humps .none [c] (next :: rest)
    else
      humps (last.after c) (word ++ [c]) (next :: rest)

def words (text : List Char) : List (List Char) :=
  (splitWhere (!isAlphanumeric ·) text).flatMap (humps .none [])

/-- A capital sigma that ends the word takes its final form. -/
def lowerWord : List Char → List Char
  | [] => []
  | [c] => if c = 'Σ' then ['ς'] else lower c
  | c :: rest => lower c ++ lowerWord rest

def titleWord : List Char → List Char
  | [] => []
  | c :: rest => upper c ++ lowerWord rest

def camelCase (name : String) : String :=
  match words name.toList with
  | [] => ""
  | first :: others => String.ofList (lowerWord first ++ others.flatMap titleWord)

def capitalize (name : String) : String :=
  match name.toList with
  | [] => ""
  | c :: rest => String.ofList (upper c ++ rest)

end ModelRepositories.Text
