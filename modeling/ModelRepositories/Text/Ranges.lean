/-!
Classes of characters as sorted tables of code points. A `Ranges` table lists intervals; a `Runs`
table lists intervals of which only every `step`-th code point belongs, as where capital and small
letters alternate.
-/

namespace ModelRepositories.Text

abbrev Ranges := List (Nat × Nat)

/-- The intervals ascend, so the search ends at the first one that starts above the code point. -/
def Ranges.includes : Ranges → Nat → Bool
  | [], _ => false
  | (first, last) :: rest, code =>
    decide (first ≤ code) && (decide (code ≤ last) || Ranges.includes rest code)

structure Run where
  first : Nat
  last : Nat
  step : Nat

def Run.includes (run : Run) (code : Nat) : Bool :=
  decide (run.first ≤ code) && decide (code ≤ run.last) && (code - run.first) % run.step == 0

abbrev Runs := List Run

def Runs.includes (runs : Runs) (code : Nat) : Bool :=
  runs.any (·.includes code)

end ModelRepositories.Text
