/-! Runs of code points, the rows of every character table. -/

namespace RuleLexer.Unicode

/-- The code points `first`, `first + step`, … up to `last`. -/
structure Run where
  first : Nat
  last : Nat
  step : Nat
  deriving DecidableEq, Inhabited

namespace Run

def one (point : Nat) : Run := ⟨point, point, 1⟩

def all (first last : Nat) : Run := ⟨first, last, 1⟩

/-- Every second code point, as where capital and small letters take turns. -/
def alternate (first last : Nat) : Run := ⟨first, last, 2⟩

/-- The code points of the run in ascending order. -/
def points (r : Run) : List Nat :=
  (List.range ((r.last - r.first) / r.step + 1)).map fun i => r.first + i * r.step

end Run

end RuleLexer.Unicode
