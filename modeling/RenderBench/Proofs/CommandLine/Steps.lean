import RenderBench.CommandLine.Run
import RenderBench.Proofs.Stepwise

/-!
# `Proofs.CommandLine.Steps` — what each step of a command leaves

A command is run on what has been written so far. Every step has one equation that says how it ends and
what has been written then, and the equations of the steps of `run` make up those of the whole command line.

## Contents
- `Written.printed`, `Written.told`: the two texts with more at their ends.
- `run_printLines`, `run_printErrors`, `run_readSettings`: the steps.
- `reportSession`, `completeReport`, `saveResult`: what `run` makes of a session, and of its result.
- `execute_list`, `execute_unknown`, `execute_variant`: a command line that asks for a session.
-/

namespace RenderBench.CommandLine

open Log (Record)

variable {s : Surroundings} {words : List String} {o : RunOptions} {settings : Settings}
  {root : Log.Root} {v : Variant} {w : Written}

/-! ## Texts -/

namespace Written

/-- What has been written after lines of the first text. -/
def printed (w : Written) (lines : List String) : Written :=
  { w with output := w.output ++ String.join (lines.map (· ++ "\n")) }

/-- What has been written after more of the second text. -/
def told (w : Written) (text : String) : Written := { w with errors := w.errors ++ text }

@[simp] theorem printed_output (w : Written) (lines : List String) :
    (w.printed lines).output = w.output ++ String.join (lines.map (· ++ "\n")) := rfl

@[simp] theorem printed_errors (w : Written) (lines : List String) :
    (w.printed lines).errors = w.errors := rfl

@[simp] theorem printed_files (w : Written) (lines : List String) :
    (w.printed lines).files = w.files := rfl

@[simp] theorem told_output (w : Written) (text : String) : (w.told text).output = w.output := rfl

@[simp] theorem told_errors (w : Written) (text : String) :
    (w.told text).errors = w.errors ++ text := rfl

@[simp] theorem told_files (w : Written) (text : String) : (w.told text).files = w.files := rfl

end Written

/-! ## Steps -/

namespace Action

theorem run_get (w : Written) : ExceptT.run (get : Action Written) w = (.ok w, w) := rfl

theorem run_printLines (lines : List String) (w : Written) :
    ExceptT.run (printLines lines) w = (.ok (), w.printed lines) := rfl

theorem run_printErrors (text : String) (w : Written) :
    ExceptT.run (printErrors text) w = (.ok (), w.told text) := rfl

end Action

/-- What the second text starts with: the warnings about the file of settings. -/
def settingsWarnings (s : Surroundings) : String :=
  match Settings.readFile s.files s.environment with
  | .ok file => Log.Root.initial.writeAll s.now (file.invalidLines.map unreadableLine)
  | .error _ => ""

theorem run_readSettings (h : Settings.load s.files s.environment [] = .ok settings) (w : Written) :
    ExceptT.run (readSettings s) w = (.ok settings, w.told (settingsWarnings s)) := by
  cases hfile : Settings.readFile s.files s.environment with
  | error f =>
    rw [Settings.load, hfile] at h
    cases h
  | ok file =>
    rw [readSettings, settingsWarnings, hfile, h]
    exact Stepwise.run_bind_ok _ (Action.run_printErrors _ w)

/-! ## A session and its report -/

/-- A result saved among the files. -/
def saveResult (s : Surroundings) (settings : Settings) (root : Log.Root) (result : SessionResult) :
    Action Unit := do
  let (files, saved) := persist (← get).files s.now settings.resultsDirectory result
  modify fun w => { w with files }
  let (_, notice) ← Action.orStop (fun e => .failed (.persist e)) saved
  Action.printErrors (root.write s.now notice)

/-- What follows the report of a result: the table of details and the files, if they are asked for. -/
def completeReport (s : Surroundings) (o : RunOptions) (settings : Settings) (root : Log.Root)
    (result : SessionResult) : Action Unit := do
  if o.details then
    Action.printErrors (← Action.orStop (fun e => .failed (.details e))
      (detailsText (terminalWidth s.environment) false result))
  if o.save then saveResult s settings root result

/-- What `run` makes of a session. -/
def reportSession (s : Surroundings) (o : RunOptions) (settings : Settings) (root : Log.Root)
    (withUnit : Bool) (run : SessionRun) : Action Unit := do
  Action.printErrors (root.writeAll s.now run.logs)
  match run.result with
  | .error (.load e) =>
    Action.printErrors (e.message ++ "\n")
    throw .reported
  | .error e => throw (.failed (.session e))
  | .ok result =>
    Action.printLines (reportLines result withUnit)
    completeReport s o settings root result

theorem runVariant_eq (h : s.interrupt = none) :
    runVariant s o settings root v = reportSession s o settings root (o.withUnit.getD v.microsSuffix)
      (runSession s.files s.clock s.host (o.config settings v) root) := by
  rw [runVariant, h]
  rfl

theorem run_saveResult_ok {result : SessionResult} {files : FileStore}
    {saved : FilePath × Record}
    (h : persist w.files s.now settings.resultsDirectory result = (files, .ok saved)) :
    ExceptT.run (saveResult s settings root result) w =
      (.ok (), Written.told { w with files } (root.write s.now saved.2)) := by
  rw [saveResult, Stepwise.run_bind_ok _ (Action.run_get w), h]
  rfl

section

variable {withUnit : Bool} {run : SessionRun}

theorem run_reportSession_load {e : LoadError} (h : run.result = .error (.load e)) (w : Written) :
    ExceptT.run (reportSession s o settings root withUnit run) w =
      (.error .reported, (w.told (root.writeAll s.now run.logs)).told (e.message ++ "\n")) := by
  rw [reportSession, h, Stepwise.run_bind_ok _ (Action.run_printErrors _ w)]
  exact Stepwise.run_bind_ok _ (Action.run_printErrors _ _)

theorem run_reportSession_error {e : SessionError} (h : run.result = .error e)
    (hload : ∀ f, e ≠ .load f) (w : Written) :
    ExceptT.run (reportSession s o settings root withUnit run) w =
      (.error (.failed (.session e)), w.told (root.writeAll s.now run.logs)) := by
  rw [reportSession, h, Stepwise.run_bind_ok _ (Action.run_printErrors _ w)]
  cases e with
  | load f => exact absurd rfl (hload f)
  | _ => rfl

theorem run_reportSession_ok {result : SessionResult} (h : run.result = .ok result) (w : Written) :
    ExceptT.run (reportSession s o settings root withUnit run) w =
      ExceptT.run (completeReport s o settings root result)
        ((w.told (root.writeAll s.now run.logs)).printed (reportLines result withUnit)) := by
  rw [reportSession, h, Stepwise.run_bind_ok _ (Action.run_printErrors _ w)]
  exact Stepwise.run_bind_ok _ (Action.run_printLines _ _)

end

/-! ## Command lines -/

/-- What a command that is done leaves. -/
def Outcome.ofRun : Except Stop Unit × Written → Outcome
  | (.ok _, w) => ⟨none, w⟩
  | (.error stop, w) => ⟨some stop, w⟩

theorem Outcome.written_ofRun (r : Except Stop Unit × Written) : (Outcome.ofRun r).written = r.2 := by
  rcases r with ⟨_ | _, _⟩ <;> rfl

/-- What has been written when the settings are read. -/
def Written.begun (s : Surroundings) : Written :=
  Written.told { files := s.files } (settingsWarnings s)

/-- What a command line asks for when it asks for a session, and what it finds: nobody cancels, the settings
    are valid, and so is their level. -/
structure AsksRun (s : Surroundings) (words : List String) (o : RunOptions) (settings : Settings)
    (root : Log.Root) : Prop where
  interrupt : s.interrupt = none
  read : Command.read words = .ok (.run o)
  load : Settings.load s.files s.environment [] = .ok settings
  level : Log.Root.configure settings.logLevel (if settings.jsonLogs then .json else .console) =
    .ok root

namespace AsksRun

/-- `run` once the settings are read and logging is configured. -/
theorem execute_eq (h : AsksRun s words o settings root) :
    execute s words = Outcome.ofRun (ExceptT.run (
      if o.variantName settings = listName then Action.printLines [variantsLine]
      else do
        let variant ← Action.orStop (fun e => .usage (.unknownVariant e))
          (Variant.ofName (o.variantName settings))
        runVariant s o settings root variant : Action Unit) (Written.begun s)) := by
  have hrun : ExceptT.run (perform s words) { files := s.files } = ExceptT.run (runRun s o)
      { files := s.files } := by
    rw [perform, h.interrupt, h.read]
    rfl
  rw [execute, hrun, runRun, Stepwise.run_bind_ok _ (run_readSettings h.load _), h.level]
  rfl

theorem execute_list (h : AsksRun s words o settings root)
    (hname : o.variantName settings = listName) :
    execute s words = ⟨none, (Written.begun s).printed [variantsLine]⟩ := by
  rw [h.execute_eq, if_pos hname]
  rfl

theorem execute_unknown {u : UnknownVariant} (h : AsksRun s words o settings root)
    (hname : o.variantName settings ≠ listName)
    (hvariant : Variant.ofName (o.variantName settings) = .error u) :
    execute s words = ⟨some (.usage (.unknownVariant u)), Written.begun s⟩ := by
  rw [h.execute_eq, if_neg hname, hvariant]
  rfl

/-- The name that asks for the variants is the name of none. -/
theorem ofName_listName : Variant.ofName listName = .error ⟨listName⟩ := by rfl

theorem execute_variant (h : AsksRun s words o settings root)
    (hvariant : Variant.ofName (o.variantName settings) = .ok v) :
    execute s words = Outcome.ofRun (ExceptT.run
      (reportSession s o settings root (o.withUnit.getD v.microsSuffix)
        (runSession s.files s.clock s.host (o.config settings v) root)) (Written.begun s)) := by
  have hname : o.variantName settings ≠ listName := by
    intro hlist
    rw [hlist, ofName_listName] at hvariant
    cases hvariant
  rw [h.execute_eq, if_neg hname, hvariant, ← runVariant_eq h.interrupt]
  rfl

end AsksRun

/-! ## The report is the last of the first text -/

/-- A step that writes nothing to the first text, however it ends. -/
def Action.Silent {α : Type} (p : Action α) : Prop :=
  ∀ w : Written, (ExceptT.run p w).2.output = w.output

namespace Action

variable {ε α β : Type}

theorem silent_pure (a : α) : Silent (pure a) := fun _ => rfl

theorem silent_bind {p : Action α} {f : α → Action β} (hp : Silent p) (hf : ∀ a, Silent (f a)) :
    Silent (p >>= f) := by
  intro w
  have hfirst := hp w
  rw [Stepwise.run_bind]
  rcases hrun : ExceptT.run p w with ⟨e | a, w'⟩
  · rw [hrun] at hfirst
    exact hfirst
  · rw [hrun] at hfirst
    exact (hf a w').trans hfirst

theorem silent_printErrors (text : String) : Silent (printErrors text) := fun _ => rfl

theorem silent_orStop (stop : ε → Stop) (r : Except ε α) : Silent (orStop stop r) := by
  intro w
  cases r <;> rfl

theorem silent_ite {c : Prop} [Decidable c] {p q : Action α} (hp : Silent p) (hq : Silent q) :
    Silent (if c then p else q) := by
  by_cases h : c
  · rwa [if_pos h]
  · rwa [if_neg h]

end Action

theorem silent_saveResult (s : Surroundings) (settings : Settings) (root : Log.Root)
    (result : SessionResult) : Action.Silent (saveResult s settings root result) := by
  refine Action.silent_bind (fun _ => rfl) fun w => ?_
  refine Action.silent_bind (fun _ => rfl) fun _ => ?_
  exact Action.silent_bind (Action.silent_orStop _ _) fun _ => Action.silent_printErrors _

theorem silent_completeReport (s : Surroundings) (o : RunOptions) (settings : Settings)
    (root : Log.Root) (result : SessionResult) :
    Action.Silent (completeReport s o settings root result) := by
  have hsave : Action.Silent (if o.save then saveResult s settings root result else pure ()) :=
    Action.silent_ite (silent_saveResult s settings root result) (Action.silent_pure _)
  by_cases hdetails : o.details
  · rw [completeReport, if_pos hdetails]
    refine Action.silent_bind (Action.silent_orStop _ _) fun _ => ?_
    exact Action.silent_bind (Action.silent_printErrors _) fun _ => hsave
  · rw [completeReport, if_neg hdetails]
    exact hsave

end RenderBench.CommandLine
