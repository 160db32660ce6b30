/-!
# `Clock` — readings in nanoseconds

A clock gives one reading after the other and may fail at any of them. Two kinds are made from a script:
the readings of a list, after which the clock fails, and readings at equal distances.

## Contents
- `Clock`, `Clock.readings`, `Clock.steady`: the readings.
- `ClockState`, `ClockState.read`: a clock and how often it was read.
-/

namespace RenderBench

structure Clock where
  /-- The reading number `k`, counted from zero; none when the clock fails. -/
  reading? : Nat → Option Int

namespace Clock

def readings (rs : List Int) : Clock :=
  let script := rs.toArray
  ⟨fun k => script[k]?⟩

/-- The first reading is one step after the start. -/
def steady (start step : Int) : Clock := ⟨fun k => some (start + step * (k + 1))⟩

end Clock

/-- A clock and the number of times it was read, failures included. -/
structure ClockState where
  clock : Clock
  calls : Nat := 0

/-- The next reading. -/
def ClockState.read (c : ClockState) : Option Int × ClockState :=
  (c.clock.reading? c.calls, { c with calls := c.calls + 1 })

/-- What a clock without further readings says. -/
def clockExhausted : String := "clock exhausted"

end RenderBench
