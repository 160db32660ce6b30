import RenderBench.Json.Basic
import RenderBench.Number.Fixed
import RenderBench.Number.Shortest

/-!
# `Number.Figure` — whole and real numbers side by side

Some results are whole numbers when they can be and real numbers otherwise, and are written
accordingly.
-/

namespace RenderBench

inductive Figure where
  | whole (i : Int)
  | real (x : Binary64)
  deriving DecidableEq

namespace Figure

def isZero : Figure → Bool
  | .whole i => i == 0
  | .real x => x.isZero

def toBinary64 : Figure → Binary64
  | .whole i => .ofInt i
  | .real x => x

def toJson : Figure → Json
  | .whole i => .int i
  | .real x => .real x

/-- The quotient by a positive whole number, rounded once. -/
def divNat (n : Nat) : Figure → Binary64
  | .whole i => .ofRatio (decide (i < 0)) i.natAbs n
  | .real x => x.div (.ofInt n)

end Figure

end RenderBench
