import RenderBench.Number.Figure
import RenderBench.Statistics.Basic

/-!
# `Report.Bytes` — amounts of memory

An amount of memory is written in units of 2^20 bytes with two places.
-/

namespace RenderBench

/-- The bytes of one unit. -/
def bytesPerUnit : Nat := 1024 * 1024

/-- An amount of memory as text; nothing and zero are not available. -/
def bytesText (amount : Option Figure) : Except SpreadError String :=
  match amount with
  | none => .ok "N/A"
  | some f =>
    if f.isZero then .ok "N/A"
    else match f with
      | .whole i => do
        let units ← ((Figure.whole i).divNat bytesPerUnit).bounded
        return units.fixed false 2 ++ " MB"
      | .real x => .ok ((x.div (.ofInt bytesPerUnit)).fixed false 2 ++ " MB")

end RenderBench
