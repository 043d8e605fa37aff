/-!
# Runs of code points

A property of characters is given by the runs of code points that have it.
-/

namespace EntityStore.Text

/-- The code points from `first` to `last`, each a number of steps from the first. -/
structure Run where
  first : Nat
  last : Nat
  step : Nat

def Run.contains (r : Run) (n : Nat) : Bool :=
  r.first ≤ n && n ≤ r.last && (n - r.first) % r.step == 0

/-- Whether a character lies in one of the runs. -/
def inRuns (runs : List Run) (c : Char) : Bool := runs.any (·.contains c.toNat)

end EntityStore.Text
