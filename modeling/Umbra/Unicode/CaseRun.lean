/-! Runs of characters whose case is changed in the same way. -/

namespace Umbra.Unicode

/-- A run covers every `step`-th character from `first` to `last`; the image of `first` is `image`,
and the images of the others follow at the same distances. -/
structure CaseRun where
  first : Nat
  last : Nat
  step : Nat
  image : Nat

namespace CaseRun

def covers (r : CaseRun) (n : Nat) : Bool :=
  r.first ≤ n && n ≤ r.last && (n - r.first) % r.step == 0

/-- The image of a character of the run. -/
def imageOf (r : CaseRun) (n : Nat) : Nat := r.image + (n - r.first)

/-- The characters of a run with their images. -/
def pairs (r : CaseRun) : List (Nat × Nat) :=
  (List.range ((r.last - r.first) / r.step + 1)).map fun i =>
    (r.first + i * r.step, r.image + i * r.step)

end CaseRun

end Umbra.Unicode
