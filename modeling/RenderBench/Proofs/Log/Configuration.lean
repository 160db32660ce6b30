import RenderBench.Log.Root
import RenderBench.Proofs.Log.Line
import RenderBench.Proofs.Text.Capitals

/-!
# `Proofs.Log.Configuration` — logging that is configured again and again

Logging is configured many times, sometimes with a level that is none, and records are logged in between. The last
configuration that succeeded decides alone: the root has one handler, of its style and level, so no record is written
twice. A configuration that fails is not noticed by anything that comes after it.

## Contents
- `LogCall`, `LogCall.run`: configurations and records, and what a call answers.
- `Root.after`, `Root.answers`: calls in a row.
- `run_of_handler?_eq_none`: calls that leave the root alone; `answers_eq_map`: many of them.
- `LogCall.exists_last`, `after_configure`: the last configuration that succeeded.
- `configuration_holds`: what the root is after any calls, and what a record leaves.
- `unwritten_of_notset`: the lowest level is not let through even when it is configured.
-/

namespace RenderBench.Log

/-! ## Calls -/

inductive LogCall where
  | configure (levelName : String) (style : Style)
  | log (now : Int) (record : Record)

/-- Why a call fails. -/
inductive CallFailure where
  | unknown (e : UnknownLevel)
  | overwrite (e : Overwrite)
  deriving DecidableEq

namespace LogCall

/-- The root after a call, and the text that the call writes or its failure. -/
def run (root : Root) : LogCall → Root × Except CallFailure String
  | configure levelName style =>
    match root.reconfigure levelName style with
    | .ok root' => (root', .ok "")
    | .error e => (root, .error (.unknown e))
  | log now r => (root, (root.log now r).mapError .overwrite)

/-- The handler that a call installs. -/
def handler? : LogCall → Option Handler
  | configure levelName style => (Level.ofName? levelName).map fun level => ⟨style, level⟩
  | log _ _ => none

end LogCall

/-- The root after a row of calls, whether they succeed or not. -/
def Root.after (root : Root) (calls : List LogCall) : Root := calls.foldl (fun root c => (c.run root).1) root

/-- What calls in a row answer, one after the other. -/
def Root.answers (root : Root) : List LogCall → List (Except CallFailure String)
  | [] => []
  | c :: calls => (c.run root).2 :: (c.run root).1.answers calls

variable {root : Root} {c : LogCall} {h : Handler} {name : String} {style : Style} {level : Level}

theorem after_append (root : Root) (calls calls' : List LogCall) :
    root.after (calls ++ calls') = (root.after calls).after calls' := List.foldl_append

theorem answers_append (root : Root) (calls calls' : List LogCall) :
    root.answers (calls ++ calls') = root.answers calls ++ (root.after calls).answers calls' := by
  induction calls generalizing root with
  | nil => rfl
  | cons c calls ih =>
    rw [List.cons_append, Root.answers, ih, Root.answers, List.cons_append]
    rfl

/-! ## One call -/

theorem readLevel_eq_ok (hlevel : Level.ofName? name = some level) : readLevel name = .ok level := by
  rw [readLevel, hlevel]

theorem run_configure (hlevel : Level.ofName? name = some level) (root : Root) (style : Style) :
    (LogCall.configure name style).run root = (⟨level, [⟨style, level⟩]⟩, .ok "") := by
  rw [LogCall.run, Root.reconfigure_eq, readLevel_eq_ok hlevel]
  rfl

theorem run_unknown (hlevel : Level.ofName? name = none) (root : Root) (style : Style) :
    (LogCall.configure name style).run root = (root, .error (.unknown ⟨name⟩)) := by
  rw [LogCall.run, Root.reconfigure_eq, readLevel, hlevel]
  rfl

/-- A call that installs no handler leaves the root as it is. -/
theorem run_of_handler?_eq_none (hnone : c.handler? = none) (root : Root) : (c.run root).1 = root := by
  cases c with
  | configure name style =>
    have hlevel : Level.ofName? name = none := Option.map_eq_none_iff.mp hnone
    rw [run_unknown hlevel]
  | log now r => rfl

/-- A record has a line if its message can be formatted and, in a document, its keys are names. -/
theorem exists_line {r : Record} {m : String} (hmessage : r.message = .ok m) {style : Style}
    (hkeys : style = .json → r.oddKey? m = none) (now : Int) : ∃ line, r.line style now = .ok line := by
  cases style with
  | console =>
    rw [Record.line, Record.consoleLine, hmessage]
    exact ⟨_, rfl⟩
  | json => exact ⟨_, Record.jsonLine_eq_ok hmessage (hkeys rfl)⟩

theorem log_of_not_accepts {now : Int} {r : Record} (hlow : ¬ (0 < r.level ∧ root.level ≤ r.level)) :
    root.log now r = .ok "" := by
  have hnot : root.accepts r.level = false := by
    rw [Root.accepts, ← Bool.decide_and, decide_eq_false hlow]
  rw [Root.log, hnot]
  rfl

/-- One handler writes one line. -/
theorem write_of_handler {now : Int} {r : Record} {line : String} (hhandlers : root.handlers = [h])
    (haccepts : root.accepts r.level = true) (hlevel : h.level ≤ r.level) (hline : r.line h.style now = .ok line) :
    root.write now r = line ++ "\n" := by
  have hhandle : Root.handle now r h = line ++ "\n" := by
    rw [Root.handle, if_pos hlevel, hline]
  rw [Root.write, haccepts, hhandlers, List.map_singleton, hhandle]
  show "" ++ (line ++ "\n") = _
  exact String.empty_append

theorem log_of_accepts {now : Int} {r : Record} {line : String} (hpositive : 0 < r.level) (hlevel : level ≤ r.level)
    (hextra : firstOverwrite r.extra = none) (hline : r.line style now = .ok line) :
    Root.log ⟨level, [⟨style, level⟩]⟩ now r = .ok (line ++ "\n") := by
  have haccepts : Root.accepts ⟨level, [⟨style, level⟩]⟩ r.level = true := by
    rw [Root.accepts, ← Bool.decide_and, decide_eq_true ⟨hpositive, hlevel⟩]
  rw [Root.log, haccepts, hextra]
  exact congrArg Except.ok (write_of_handler rfl haccepts hlevel hline)

/-! ## Calls in a row -/

theorem after_of_handler?_eq_none {calls : List LogCall} (hnone : ∀ c ∈ calls, c.handler? = none) (root : Root) :
    root.after calls = root := by
  induction calls with
  | nil => rfl
  | cons c calls ih =>
    obtain ⟨hc, hcalls⟩ := List.forall_mem_cons.mp hnone
    show ((c.run root).1).after calls = root
    rw [run_of_handler?_eq_none hc, ih hcalls]

/-- Calls that install no handler answer each by itself. -/
theorem answers_eq_map {calls : List LogCall} (hnone : ∀ c ∈ calls, c.handler? = none) (root : Root) :
    root.answers calls = calls.map fun c => (c.run root).2 := by
  induction calls with
  | nil => rfl
  | cons c calls ih =>
    obtain ⟨hc, hcalls⟩ := List.forall_mem_cons.mp hnone
    rw [Root.answers, run_of_handler?_eq_none hc, ih hcalls, List.map_cons]

theorem exists_configure (hsome : c.handler? = some h) :
    ∃ name, c = .configure name h.style ∧ Level.ofName? name = some h.level := by
  cases c with
  | configure name style =>
    obtain ⟨level, hlevel, rfl⟩ := Option.map_eq_some_iff.mp hsome
    exact ⟨name, rfl, hlevel⟩
  | log now r => cases hsome

/-- A row of calls, some of which install a handler, has a last one that does. -/
theorem LogCall.exists_last {calls : List LogCall} (hsome : ∃ c ∈ calls, c.handler? ≠ none) :
    ∃ earlier name style level later, calls = earlier ++ .configure name style :: later ∧
      Level.ofName? name = some level ∧ ∀ c ∈ later, c.handler? = none := by
  induction calls with
  | nil =>
    obtain ⟨c, hmem, -⟩ := hsome
    cases hmem
  | cons c calls ih =>
    -- the last one is among the rest, unless the rest has none
    by_cases hrest : ∃ d ∈ calls, d.handler? ≠ none
    · obtain ⟨earlier, name, style, level, later, rfl, hlevel, hlast⟩ := ih hrest
      exact ⟨c :: earlier, name, style, level, later, rfl, hlevel, hlast⟩
    · have hlast : ∀ d ∈ calls, d.handler? = none := by
        intro d hd
        by_contra hne
        exact hrest ⟨d, hd, hne⟩
      obtain ⟨d, hmem, hne⟩ := hsome
      rcases List.mem_cons.mp hmem with rfl | hmem
      · obtain ⟨h, hsome⟩ := Option.ne_none_iff_exists'.mp hne
        obtain ⟨name, rfl, hlevel⟩ := exists_configure hsome
        exact ⟨[], name, h.style, h.level, calls, rfl, hlevel, hlast⟩
      · exact absurd (hlast d hmem) hne

/-- The last handler that is installed is the only one. -/
theorem after_configure {later : List LogCall} (hlevel : Level.ofName? name = some level)
    (hlast : ∀ c ∈ later, c.handler? = none) (root : Root) (earlier : List LogCall) (style : Style) :
    root.after (earlier ++ .configure name style :: later) = ⟨level, [⟨style, level⟩]⟩ := by
  rw [after_append]
  show (((LogCall.configure name style).run (root.after earlier)).1).after later = _
  rw [run_configure hlevel, after_of_handler?_eq_none hlast]

/-- **Logging after any calls.** If one of them configured it, the last of these decides: the root has its level, and
    one handler of its level and style. From then on each call answers by itself: a record from the level on leaves its
    line, once, if it has one, and a record below it or of no positive level leaves nothing. A record has a line if its
    message can be formatted and, where lines are documents, all its keys are names. An unknown level fails, whether logging was
    configured before or not, and what comes afterwards is as if it had not been tried. The letter case of a level does
    not matter. -/
theorem configuration_holds (root : Root) (calls : List LogCall) :
    let left := root.after calls
    ((∃ c ∈ calls, c.handler? ≠ none) →
      ∃ earlier name style level later, calls = earlier ++ .configure name style :: later ∧
        Level.ofName? name = some level ∧ (∀ c ∈ later, c.handler? = none) ∧
        left = ⟨level, [⟨style, level⟩]⟩ ∧
        root.answers calls = root.answers earlier ++ .ok "" :: (later.map fun c => (c.run left).2) ∧
        ∀ now r, (¬ (0 < r.level ∧ level ≤ r.level) → left.log now r = .ok "") ∧
          (0 < r.level → level ≤ r.level → firstOverwrite r.extra = none →
            ∀ line, r.line style now = .ok line → left.log now r = .ok (line ++ "\n")) ∧
          ∀ m, r.message = .ok m → (style = .json → r.oddKey? m = none) → ∃ line, r.line style now = .ok line) ∧
    (∀ name style, Level.ofName? name = none →
      (LogCall.configure name style).run left = (left, .error (.unknown ⟨name⟩)) ∧
        ∀ later, root.answers (calls ++ .configure name style :: later) =
          root.answers calls ++ .error (.unknown ⟨name⟩) :: left.answers later) ∧
    ∀ name style, ((LogCall.configure (upper name) style).run left).1 = ((LogCall.configure name style).run left).1 := by
  intro left
  refine ⟨?_, ?_, ?_⟩
  · intro hsome
    obtain ⟨earlier, name, style, level, later, rfl, hlevel, hlast⟩ := LogCall.exists_last hsome
    have hleft : left = ⟨level, [⟨style, level⟩]⟩ := after_configure hlevel hlast root earlier style
    refine ⟨earlier, name, style, level, later, rfl, hlevel, hlast, hleft, ?_, ?_⟩
    · rw [answers_append, Root.answers, run_configure hlevel, answers_eq_map hlast, hleft]
    · intro now r
      rw [hleft]
      exact ⟨fun hlow => log_of_not_accepts hlow,
        fun hpositive hfrom hextra line hline => log_of_accepts hpositive hfrom hextra hline,
        fun m hmessage hkeys => exists_line hmessage hkeys now⟩
  · intro name style hlevel
    have hrun := run_unknown hlevel left style
    refine ⟨hrun, fun later => ?_⟩
    rw [answers_append, Root.answers, hrun]
  · intro name style
    cases hlevel : Level.ofName? name with
    | none => rw [run_unknown hlevel, run_unknown ((Level.ofName?_upper name).trans hlevel)]
    | some level => rw [run_configure hlevel, run_configure ((Level.ofName?_upper name).trans hlevel)]

/-! ## Calls in which levels are unknown, and the lowest level -/

def greeting (level : Level) : Record where
  logger := "root"
  level := level
  text := .text "hello"

/-- A message that asks for a number where it has a text. -/
def misfitting : Record where
  logger := "root"
  level := Level.critical
  text := .text "%d"
  arguments := .several [.text "x"]

/-- A record with a mapping from points to numbers. -/
def charting : Record where
  logger := "root"
  level := Level.info
  text := .text "point"
  extra := [("grid", .foreign (.mapping "tuple" "\x7b(1, 2): 3\x7d"))]

def severalCalls : List LogCall :=
  [.configure "warning" .console, .log 0 (greeting Level.error), .configure "loud" .json, .configure "Error" .json,
    .log 1 (greeting Level.error), .configure "quiet" .console]

/-- Two levels that are none do not matter, before or after the one that decides. -/
theorem configuration_holds_several :
    (∃ c ∈ severalCalls, c.handler? ≠ none) ∧ Level.ofName? "loud" = none ∧
      (Root.initial.after severalCalls).handlers = [⟨.json, 40⟩] ∧
      (∃ line, (greeting Level.error).line .json 2 = .ok line ∧
        (Root.initial.after severalCalls).log 2 (greeting Level.error) = .ok (line ++ "\n")) ∧
      (LogCall.configure "loud" .json).run (Root.initial.after severalCalls) =
        (Root.initial.after severalCalls, .error (.unknown ⟨"loud"⟩)) := by
  have hsome : ∃ c ∈ severalCalls, c.handler? ≠ none :=
    ⟨.configure "Error" .json, by simp [severalCalls], by decide +kernel⟩
  have hunknown : Level.ofName? "loud" = none := by decide +kernel
  have hleft : Root.initial.after severalCalls = ⟨40, [⟨.json, 40⟩]⟩ := by decide +kernel
  obtain ⟨hlast, hfails, -⟩ := configuration_holds Root.initial severalCalls
  obtain ⟨_, _, style, level, _, -, -, -, hone, -, hrecord⟩ := hlast hsome
  obtain ⟨rfl, hstyle⟩ : level = 40 ∧ style = .json := by
    rw [hleft] at hone
    simp only [Root.mk.injEq, List.cons.injEq, Handler.mk.injEq] at hone
    exact ⟨hone.1.symm, hone.2.1.1.symm⟩
  refine ⟨hsome, hunknown, hone ▸ hstyle ▸ rfl, ?_, (hfails "loud" .json hunknown).1⟩
  rw [← hstyle]
  obtain ⟨-, hwritten, hexists⟩ := hrecord 2 (greeting Level.error)
  obtain ⟨line, hline⟩ := hexists "hello" (by decide +kernel) fun _ => by decide +kernel
  exact ⟨line, hline, hwritten (by decide) (by decide) (by decide) line hline⟩

/-- **The lowest level is not let through** even when it is the configured one, a record whose message does not fit has
    no line at all, and one with a key that is no name has a line for people only. -/
theorem unwritten_of_notset :
    (Root.initial.after [.configure "NOTSET" .json] = ⟨0, [⟨.json, 0⟩]⟩ ∧
      (greeting 0).level = 0 ∧ ((greeting 0).line .json 0).isOk ∧
        (Root.initial.after [.configure "NOTSET" .json]).log 0 (greeting 0) = .ok "") ∧
      (∀ style, ¬ (misfitting.line style 0).isOk) ∧
        charting.message.isOk ∧ (charting.line .console 0).isOk ∧
          (Root.initial.after [.configure "INFO" .json]).log 0 charting = .ok "" := by
  refine ⟨⟨by decide +kernel, rfl, by decide +kernel, by decide +kernel⟩, ?_, by decide +kernel, by decide +kernel,
    by decide +kernel⟩
  intro style
  cases style with
  | console => decide +kernel
  | json => decide +kernel

end RenderBench.Log
