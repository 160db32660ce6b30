/-!
# `Text.CharRange` — sets of characters as lists of ranges

Properties of characters are tables of closed ranges of code points. A range may take every second
code point only, as alphabets that alternate capital and small letters do.
-/

namespace RenderBench

/-- Whether a code point lies in one of the closed ranges. -/
def inRanges (table : List (Nat × Nat)) (c : Nat) : Bool :=
  table.any fun (low, high) => low ≤ c && c ≤ high

/-- The code points `first, first + step, …` up to `last`. -/
structure SteppedRange where
  first : Nat
  last : Nat
  step : Nat

def SteppedRange.contains (r : SteppedRange) (c : Nat) : Bool :=
  r.first ≤ c && c ≤ r.last && (c - r.first) % r.step == 0

/-- Whether a code point lies in one of the stepped ranges. -/
def inSteppedRanges (table : List (Nat × Nat × Nat)) (c : Nat) : Bool :=
  table.any fun (first, last, step) => SteppedRange.contains ⟨first, last, step⟩ c

end RenderBench
