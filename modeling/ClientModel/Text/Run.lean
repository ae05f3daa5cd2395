/-! Sets of characters written as runs of evenly spaced code points. -/

namespace ClientModel.Text

/-- The code points from `first` to `last` that lie a multiple of `step` after `first`. -/
structure Run where
  first : Nat
  last : Nat
  step : Nat

/-- A code point belongs to the run. -/
def Run.has (run : Run) (code : Nat) : Bool :=
  run.first ≤ code && code ≤ run.last && (code - run.first) % run.step == 0

/-- A character belongs to one of the runs. -/
def inRuns (runs : List Run) (c : Char) : Bool :=
  runs.any fun run => run.has c.toNat

end ClientModel.Text
