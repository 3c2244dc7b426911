/-!
JSON values. Whole numbers that fit 64 bits are exact, all others are doubles. The members of an
object are a list of pairs: a reader keeps it sorted by key with one member a key, and a writer may
list members in the order in which they are to be shown.
-/

namespace ModelRepositories.Json

inductive Value where
  | null
  | bool (b : Bool)
  | int (n : Int)
  | float (x : Float)
  | str (text : String)
  | arr (items : List Value)
  | obj (members : List (String × Value))

abbrev Members := List (String × Value)

/-- Puts a member at its place among sorted members; a member of the same key is replaced. -/
def Members.put (key : String) (value : Value) : Members → Members
  | [] => [(key, value)]
  | (other, present) :: rest =>
    if key < other then (key, value) :: (other, present) :: rest
    else if key = other then (key, value) :: rest
    else (other, present) :: Members.put key value rest

def Members.get? (key : String) (members : Members) : Option Value :=
  List.lookup key members

end ModelRepositories.Json
