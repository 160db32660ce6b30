import RenderBench.Report.Bytes
import RenderBench.Session.Result
import RenderBench.Terminal.Wrap

/-!
# `Report.Details` — the table of a session

A table of two columns with a frame: the figures of the summary and the spread of the samples, and what
the session cost the machine. The title above it and the caption below it are as wide as the table.

## Contents
- `DetailsRow`, `detailsRows`: the rows.
- `columnWidths`: how wide the columns are on a terminal of some width.
- `detailsText`: the table with its title and caption.
-/

namespace RenderBench

open Terminal (StyledChar Style Align plainChars readMarkup blanks aligned wrapText painted MarkupError)

inductive DetailsError where
  | spread (e : SpreadError)
  | intTooLarge
  | markup (e : MarkupError)
  deriving DecidableEq

def DetailsError.message : DetailsError → String
  | .spread e => e.message
  | .intTooLarge => "int too large to convert to float"
  | .markup e => e.message

/-- A figure with its name. -/
structure DetailsRow where
  metric : String
  value : List StyledChar

def DetailsRow.ofTexts (metric value : String) : DetailsRow := ⟨metric, plainChars value.toList⟩

/-- A figure with one place and its digits in groups. -/
def groupedFigure (f : Figure) : Except DetailsError String :=
  match f with
  | .real x => .ok (x.fixed true 1)
  | .whole i =>
    let x := Binary64.ofInt i
    if x.isFinite then .ok (x.fixed true 1) else .error .intTooLarge

/-- The number of failed renders, in red if there are any. -/
def errorCount (n : Int) : List StyledChar :=
  let style : Style :=
    if n = 0 then { color := some (.numbered 2) }
    else { on := [.bold], color := some (.numbered 1) }
  (intText n).toList.map fun c => ⟨c, [(0, style)]⟩

/-- The rows about the machine. -/
def profileRows (p : ProfileStats) : Except DetailsError (List DetailsRow) := do
  let bytes (n : Option Int) : Except DetailsError String :=
    (bytesText (n.map .whole)).mapError .spread
  let peak ← bytes p.peakMemory
  let traced ← match p.peakTraced with
    | none => pure []
    | some n => do pure [DetailsRow.ofTexts "Peak traced allocations" (← bytes (some n))]
  let processor := match p.processor with
    | some x => x.fixed false 1
    | none => "N/A"
  return [.ofTexts "Session wall time (s)" (p.duration.fixed false 3),
    .ofTexts "Peak memory" peak] ++ traced ++ [.ofTexts "CPU %" processor]

def detailsRows (r : SessionResult) : Except DetailsError (List DetailsRow) := do
  let median ← groupedFigure (← r.median.mapError .spread)
  let stddev ← r.stddev.mapError .spread
  let machine ← match r.profile with
    | none => pure []
    | some p => profileRows p
  return [.ofTexts "Min (µs)" (groupedInt r.min),
    .ofTexts "Max (µs)" (groupedInt r.max),
    .ofTexts "Average (µs)" (groupedInt r.average),
    .ofTexts "Median (µs)" median,
    .ofTexts "StdDev (µs)" (stddev.fixed true 1),
    ⟨"Render errors", errorCount r.renderErrors⟩,
    .ofTexts "Warmup runs" (intText r.warmupRuns)] ++ machine

/-! ## Layout -/

/-- The widths of the columns with a blank on each side. The first column takes what it needs; the second
    one has to do with what is left. -/
def columnWidths (terminal : Nat) (rows : List DetailsRow) : Nat × Nat :=
  let metrics := rows.map fun r => Terminal.width (plainChars r.metric.toList) + 2
  let values := rows.map fun r => Terminal.width r.value + 2
  let space := terminal - 3
  let first := min (metrics.foldl max 0) space
  (first, min (values.foldl max 0) (space - first))

/-- Lines of a cell of some width in a style, with blanks around them. -/
def cellLines (escapes : Bool) (style : Style) (width : Nat) (lines : List (List StyledChar)) :
    List String :=
  let blank := painted escapes style (blanks 1)
  if width < 3 then [painted escapes style (blanks width)]
  else lines.map fun line => blank ++ painted escapes style line ++ blank

/-- A list brought to a length by adding to its end. -/
def padEnd {α : Type} (n : Nat) (a : α) (as : List α) : List α :=
  as ++ List.replicate (n - as.length) a

/-- The lines of a row, with the styles of its two cells. -/
def rowLines (escapes : Bool) (styles : Style × Style) (widths : Nat × Nat) (row : DetailsRow) :
    List String :=
  let metric := cellLines escapes styles.1 widths.1
    [aligned (widths.1 - 2) .left true (plainChars row.metric.toList)]
  let value := cellLines escapes styles.2 widths.2
    (wrapText (widths.2 - 2) .right false true row.value)
  let height := max metric.length value.length
  let fill (style : Style) (width : Nat) := painted escapes style (blanks width)
  ((padEnd height (fill styles.1 widths.1) metric).zip
    (padEnd height (fill styles.2 widths.2) value)).map fun (m, v) => "│" ++ m ++ "│" ++ v ++ "│"

/-- A line of the frame. -/
def frameLine (left middle right : String) (widths : Nat × Nat) : String :=
  let bar (n : Nat) : String := String.ofList (List.replicate n '─')
  left ++ bar widths.1 ++ middle ++ bar widths.2 ++ right

def titleStyle : Style := { on := [.italic] }

def captionStyle : Style := { on := [.dim, .italic] }

def headerStyle : Style := { on := [.bold] }

/-- The styles of the two columns: cyan and green. -/
def columnStyles : Style × Style :=
  ({ color := some (.numbered 6) }, { color := some (.numbered 2) })

/-- The table of a session on a terminal of some width, every line with its end. -/
def detailsText (terminal : Nat) (escapes : Bool) (r : SessionResult) :
    Except DetailsError String := do
  let rows ← detailsRows r
  let title ← (readMarkup ("tablebench: " ++ r.label)).mapError .markup
  let caption := groupedInt r.itemCount ++ " items, " ++ groupedInt r.runCount ++ " runs"
  let header := DetailsRow.ofTexts "Metric" "Value"
  let widths := columnWidths terminal (header :: rows)
  let width := widths.1 + widths.2 + 3
  let note (style : Style) (cs : List StyledChar) : List String :=
    (wrapText width .center true false cs).map (painted escapes style)
  let lines :=
    note titleStyle title ++
    [frameLine "╭" "┬" "╮" widths] ++
    rowLines escapes (headerStyle, headerStyle) widths header ++
    [frameLine "├" "┼" "┤" widths] ++
    rows.flatMap (rowLines escapes columnStyles widths) ++
    [frameLine "╰" "┴" "╯" widths] ++
    note captionStyle (plainChars caption.toList)
  return String.join (lines.map fun line => line ++ "\n")

end RenderBench
