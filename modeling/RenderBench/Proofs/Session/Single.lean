import RenderBench.Proofs.Session.Outcome
import RenderBench.Proofs.Template.Sink
import RenderBench.Proofs.Template.Taking

/-!
# `Proofs.Session.Single` — timed renders and a single one

The measuring loop renders a sub-template so many times, each time into a sink of its own. If its block leaves the
items alone, nothing of one render is there for the next, so all of them end as a single render does, and each
iteration gives what it gives when it is the only one. What a render costs is what the clock says, whether or not it
fails.

## Contents
- `renderInto_empty`: rendering into an empty sink ends as rendering a text does.
- `failed_replicate`: the number of failed renders when all end alike.
- `measureRenders_eq`: the loop in terms of a single render.
- `measureRenders_agrees`: the loop, a single render, and an iteration alone.
-/

namespace RenderBench

open Session (failure?)

theorem renderInto_empty (t : Template) (name : String) (items : Template.Value) :
    (t.renderInto {} name items).2 = (t.render name items).map fun _ => () := by
  unfold Template.render
  rcases t.renderInto {} name items with ⟨sink, _ | _⟩
  · rfl
  · rfl

theorem failed_replicate (n : Nat) (f : Option RenderError) :
    failed (List.replicate n f) = if f.isSome then n else 0 := List.countP_replicate

/-- How many of so many renders fail that end as a single one does. -/
def failuresOf {α : Type} (single : Except RenderError α) (n : Nat) : Nat :=
  match single with
  | .ok _ => 0
  | .error _ => n

variable {s : SessionState} {r : Nat → Int} {runCount : Int}

/-- Renders that leave the items alone end alike. -/
theorem renderFailuresFrom_of_kept {t : Template} {subTemplate : String} {items : Template.Value}
    (hkept : t.left subTemplate items = items) (n : Nat) :
    renderFailuresFrom t subTemplate n items =
      List.replicate n (failure? (t.renderInto {} subTemplate items).2) := by
  have hsame (i : Nat) : (t.left subTemplate)^[i] items = items := Function.iterate_fixed hkept i
  simp only [renderFailuresFrom, hsame, List.map_const', List.length_range]

/-- The samples of a loop are the elapsed times, whatever is rendered. -/
theorem measureRenders_samples (t : Template) (items : Template.Value) (subTemplate : String) (hruns : 1 ≤ runCount)
    (h : s.Supplies r (2 * runCount.toNat)) : ∃ failures,
      (ExceptT.run (measureRenders t items subTemplate runCount) s).1 = .ok ⟨elapsed r runCount.toNat, failures⟩ :=
  ⟨_, congrArg Prod.fst (run_measureRenders t items subTemplate hruns h)⟩

/-- **The loop in terms of a single render.** -/
theorem measureRenders_eq {t : Template} {items : Template.Value} {subTemplate : String}
    (hkept : t.left subTemplate items = items) (hruns : 1 ≤ runCount) (h : s.Supplies r (2 * runCount.toNat)) :
    (ExceptT.run (measureRenders t items subTemplate runCount) s).1 =
      .ok ⟨elapsed r runCount.toNat, failuresOf (t.render subTemplate items) runCount.toNat⟩ := by
  rw [run_measureRenders t items subTemplate hruns h, renderFailuresFrom_of_kept hkept, failed_replicate,
    renderInto_empty]
  cases t.render subTemplate items with
  | ok text => rfl
  | error e => rfl

theorem elapsed_one (r : Nat → Int) : elapsed r 1 = [(r 1 - r 0).fdiv 1000] := by
  rw [elapsed_succ, elapsed_zero]

/-- **The loop, a single render, and an iteration alone.** The block leaves the items alone, and a clock gives enough
    readings for the runs. If a single render succeeds, no timed one fails, and if it fails, all of them do; the samples
    are the elapsed times either way, and those of any other sub-template by the same clock. Each iteration gives the
    sample that it gives alone, when the clock has been read so far, and fails if it fails alone. -/
theorem measureRenders_agrees (t : Template) (items : Template.Value) (subTemplate : String)
    (hkept : t.left subTemplate items = items) (hruns : 1 ≤ runCount) (h : s.Supplies r (2 * runCount.toNat)) :
    ∃ m, (ExceptT.run (measureRenders t items subTemplate runCount) s).1 = .ok m ∧
      m.samples = elapsed r runCount.toNat ∧
      (∀ text, t.render subTemplate items = .ok text → m.renderErrors = 0) ∧
      (∀ e, t.render subTemplate items = .error e → (m.renderErrors : Int) = runCount) ∧
      (∀ t' items' subTemplate', ∃ m',
        (ExceptT.run (measureRenders t' items' subTemplate' runCount) s).1 = .ok m' ∧ m'.samples = m.samples) ∧
      ∀ i < runCount.toNat, ∃ sample failures,
        (ExceptT.run (measureRenders t items subTemplate 1) (s.ticked (2 * i))).1 = .ok ⟨[sample], failures⟩ ∧
        m.samples[i]? = some sample ∧ m.renderErrors = runCount.toNat * failures := by
  refine ⟨_, measureRenders_eq hkept hruns h, rfl, ?_, ?_, ?_, ?_⟩
  · intro text hrender
    rw [hrender]
    rfl
  · intro e hrender
    rw [hrender]
    show (runCount.toNat : Int) = runCount
    omega
  · intro t' items' subTemplate'
    obtain ⟨failures, hmeasured⟩ := measureRenders_samples t' items' subTemplate' hruns h
    exact ⟨_, hmeasured, rfl⟩
  · intro i hi
    -- the readings of the iteration are the next ones of the clock that has been read so far
    have hone : (s.ticked (2 * i)).Supplies (fun k => r (2 * i + k)) (2 * (1 : Int).toNat) := by
      refine SessionState.Supplies.ticked fun k hk => h k ?_
      have h1 : (1 : Int).toNat = 1 := rfl
      omega
    have halone := measureRenders_eq hkept (le_refl 1) hone
    rw [show (1 : Int).toNat = 1 from rfl, elapsed_one] at halone
    refine ⟨_, _, halone, ?_, ?_⟩
    · simp [elapsed, hi]
    · cases t.render subTemplate items with
      | ok text => rfl
      | error e => exact (Nat.mul_one _).symm

/-- Two renders that fail after a part of their output, and two that fail without any, by the same clock. -/
theorem measureRenders_agrees_failing :
    ∃ t, Template.load failingFiles "t.html" = .ok t ∧
      ∃ m m', (ExceptT.run (measureRenders t (.list []) "table" 2)
          { clock := { clock := .readings [0, 1500, 2000, 4999] } }).1 = .ok m ∧
        (ExceptT.run (measureRenders t (.list []) "none" 2)
          { clock := { clock := .readings [0, 1500, 2000, 4999] } }).1 = .ok m' ∧
        (m.renderErrors : Int) = 2 ∧ m.samples = [1, 2] ∧ m'.samples = m.samples := by
  have hfails : ((Template.load failingFiles "t.html").toOption.map fun t =>
      (t.render "table" (.list [])).toOption) = some none := by decide +kernel
  obtain ⟨t, hload⟩ := exists_ok_of_isOk
    (show (Template.load failingFiles "t.html").isOk = true by decide +kernel)
  have huntouched : ((Template.load failingFiles "t.html").toOption.map fun t =>
      t.document.blocks.all fun b => !b.takes) = some true := by decide +kernel
  rw [hload] at hfails huntouched
  have hkept : t.left "table" (.list []) = .list [] := left_of_untouched
    (fun b hb => by simpa using List.all_eq_true.mp (Option.some.inj huntouched) b hb) _ _
  cases hrender : t.render "table" (.list []) with
  | ok text =>
    rw [Except.toOption, Option.map_some, hrender] at hfails
    cases hfails
  | error e =>
    have hsupplies : ({ clock := { clock := .readings [0, 1500, 2000, 4999] } } : SessionState).Supplies
        (fun k => [0, 1500, 2000, 4999].getD k 0) (2 * (2 : Int).toNat) := by
      intro k hk
      have hk' : k < 4 := hk
      interval_cases k <;> rfl
    obtain ⟨m, hm, hsamples, -, herrors, hother, -⟩ :=
      measureRenders_agrees t (.list []) "table" hkept (show (1 : Int) ≤ 2 by decide) hsupplies
    obtain ⟨m', hm', hsame⟩ := hother t (.list []) "none"
    exact ⟨t, hload, m, m', hm, hm', herrors e hrender, hsamples, hsame⟩

end RenderBench
