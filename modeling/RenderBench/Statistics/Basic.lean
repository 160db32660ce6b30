import RenderBench.Number.Figure
import RenderBench.Number.Root

/-!
# `Statistics.Basic` — summaries of a list of samples

Samples are whole numbers. The summary a session reports needs one pass; the spread is computed from
exact fractions and rounded once.

## Contents
- `Summary`, `aggregate`: least and greatest sample and floored mean.
- `median`: the middle of the sorted samples.
- `stddev`: the root of the sample variance.
-/

namespace RenderBench

/-- The figures of a session. -/
structure Summary where
  min : Int
  max : Int
  average : Int
  deriving DecidableEq, Repr

/-- What makes a summary impossible. -/
inductive AggregateError where
  | runCount (n : Int)
  | noSamples
  deriving DecidableEq

/-- The complaint about a number of runs that is not positive. -/
def runCountMessage (n : Int) : String := "run count must be at least 1, got " ++ intText n

def AggregateError.message : AggregateError → String
  | .runCount n => runCountMessage n
  | .noSamples => "cannot aggregate an empty measurement sequence"

def total (samples : List Int) : Int := samples.foldl (· + ·) 0

/-- The least and greatest sample and the sum divided by the number of runs, floored. The minimum
    starts from the first sample and the maximum from zero. -/
def aggregate (samples : List Int) (runCount : Int) : Except AggregateError Summary :=
  if runCount < 1 then .error (.runCount runCount)
  else match samples with
    | [] => .error .noSamples
    | first :: _ =>
      .ok { min := samples.foldl min first
            max := samples.foldl max 0
            average := (total samples).fdiv runCount }

/-- What makes a spread figure impossible. -/
inductive SpreadError where
  | noData
  | tooLarge
  deriving DecidableEq

def SpreadError.message : SpreadError → String
  | .noData => "no median for empty data"
  | .tooLarge => "integer division result too large for a float"

/-- A real number, unless it is beyond the largest one. -/
def Binary64.bounded (x : Binary64) : Except SpreadError Binary64 :=
  if x.isFinite then .ok x else .error .tooLarge

/-- Samples in increasing order. -/
def sortSamples (samples : List Int) : List Int := samples.mergeSort (· ≤ ·)

/-- The middle sample, or half the sum of the two middle ones. -/
def median (samples : List Int) : Except SpreadError Figure :=
  let sorted := sortSamples samples
  let half := sorted.length / 2
  if sorted.length % 2 = 1 then
    match sorted[half]? with
    | some m => .ok (.whole m)
    | none => .error .noData
  else
    match sorted[half - 1]?, sorted[half]? with
    | some a, some b => ((Figure.whole (a + b)).divNat 2).bounded.map .real
    | _, _ => .error .noData

/-- `n` times the sum of the squared distances of `n` samples from their mean. -/
def scaledSquares (samples : List Int) : Int :=
  samples.length * total (samples.map fun s => s * s) - total samples * total samples

/-- The root of the sum of squared distances from the mean over one less than the number of samples;
    zero for fewer than two samples. -/
def stddev (samples : List Int) : Except SpreadError Binary64 :=
  let n := samples.length
  if n < 2 then .ok (.zero false)
  else (sqrtRatio (scaledSquares samples).toNat (n * (n - 1))).bounded

end RenderBench
