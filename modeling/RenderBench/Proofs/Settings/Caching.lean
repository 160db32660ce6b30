import Mathlib.Data.List.Induction
import RenderBench.Proofs.Stepwise
import RenderBench.Settings.Cache

/-!
# `Proofs.Settings.Caching` — settings that are asked for again and again

While settings are asked for, the environment and the files may change and the cache may be cleared. Between two
clearings the first settings that could be read answer for all later times, whatever has become of the environment
since; until there are such settings, each time is answered by what there is then. Settings of two sides of a clearing
are never the same ones.

## Contents
- `CacheEvent`, `Situation`: what may happen, and the state it happens in.
- `Situation.answer`, `Situation.after`: what is answered, and what is left after a row of events.
- `kept_after`, `Situation.Above.after`: what a row of events keeps.
- `FirstRead`, `exists_firstRead`: where the settings that are kept come from.
- `settings_cached`: what is answered after any row of events.
-/

namespace RenderBench

/-! ## Events -/

/-- What may happen while settings are asked for. -/
inductive CacheEvent where
  | changeEnvironment (e : Environment)
  | changeFiles (f : FileStore)
  | clear
  | get

structure Situation where
  environment : Environment
  files : FileStore
  cache : SettingsCache := {}

namespace Situation

/-- What could be read now. -/
def load (s : Situation) : Except Settings.Failure Settings := Settings.load s.files s.environment []

/-- What is answered to someone who asks now. -/
def answer (s : Situation) : Except Settings.Failure (Nat × Settings) := (s.cache.get s.files s.environment).1

def step (s : Situation) : CacheEvent → Situation
  | .changeEnvironment e => { s with environment := e }
  | .changeFiles f => { s with files := f }
  | .clear => { s with cache := s.cache.clear }
  | .get => { s with cache := (s.cache.get s.files s.environment).2 }

def after (s : Situation) (events : List CacheEvent) : Situation := events.foldl step s

theorem after_append (s : Situation) (events events' : List CacheEvent) :
    s.after (events ++ events') = (s.after events).after events' := List.foldl_append

variable {s : Situation} {k : Nat × Settings} {f : Settings.Failure} {e : CacheEvent} {events : List CacheEvent}

/-! ## Asking once -/

/-- What asking once answers and leaves. -/
inductive Asked (s : Situation) : Except Settings.Failure (Nat × Settings) → Situation → Prop
  | kept {k : Nat × Settings} (hkept : s.cache.kept = some k) : Asked s (.ok k) s
  | read {S : Settings} (hkept : s.cache.kept = none) (hload : s.load = .ok S) :
    Asked s (.ok (s.cache.count, S)) { s with cache := ⟨some (s.cache.count, S), s.cache.count + 1⟩ }
  | failed {f : Settings.Failure} (hkept : s.cache.kept = none) (hload : s.load = .error f) : Asked s (.error f) s

theorem asked (s : Situation) : s.Asked s.answer (s.step .get) := by
  unfold answer step SettingsCache.get
  cases hkept : s.cache.kept with
  | some k => exact .kept hkept
  | none =>
    dsimp only
    cases hload : Settings.load s.files s.environment [] with
    | error f => exact .failed hkept hload
    | ok S => exact .read hkept hload

/-- With nothing kept the answer is what can be read. -/
theorem answer_of_not_kept (hkept : s.cache.kept = none) : s.answer.map Prod.snd = s.load := by
  have hasked := s.asked
  generalize s.answer = answer, s.step .get = left at hasked
  cases hasked with
  | kept hkept' => cases hkept.symm.trans hkept'
  | read _ hload => exact hload.symm
  | failed _ hload => exact hload.symm

theorem answer_of_kept (hkept : s.cache.kept = some k) : s.answer = .ok k := by
  have hasked := s.asked
  generalize s.answer = answer, s.step .get = left at hasked ⊢
  cases hasked with
  | kept hkept' => rw [Option.some.inj (hkept.symm.trans hkept')]
  | read hkept' _ => cases hkept.symm.trans hkept'
  | failed hkept' _ => cases hkept.symm.trans hkept'

/-- **A failure is not kept.** -/
theorem step_get_of_error (hanswer : s.answer = .error f) :
    s.cache.kept = none ∧ s.load = .error f ∧ s.step .get = s := by
  have hasked := s.asked
  rw [hanswer] at hasked
  generalize s.step .get = left at hasked ⊢
  cases hasked with
  | failed hkept hload => exact ⟨hkept, hload, rfl⟩

/-- What is answered is kept. -/
theorem kept_step_get (hanswer : s.answer = .ok k) : (s.step .get).cache.kept = some k := by
  have hasked := s.asked
  rw [hanswer] at hasked
  generalize s.step .get = left at hasked ⊢
  cases hasked with
  | kept hkept => exact hkept
  | read hkept hload => rfl

/-! ## Until the next clearing -/

theorem kept_step (hkept : s.cache.kept = some k) (hclear : e ≠ .clear) : (s.step e).cache.kept = some k := by
  cases e with
  | changeEnvironment e => exact hkept
  | changeFiles f => exact hkept
  | clear => exact absurd rfl hclear
  | get => exact kept_step_get (answer_of_kept hkept)

theorem kept_after (hkept : s.cache.kept = some k) (hclear : .clear ∉ events) :
    (s.after events).cache.kept = some k := by
  induction events generalizing s with
  | nil => exact hkept
  | cons e events ih =>
    rw [List.mem_cons, not_or] at hclear
    exact ih (kept_step hkept (Ne.symm hclear.1)) hclear.2

/-- As long as nobody asks, nothing is kept. -/
theorem not_kept_after (hkept : s.cache.kept = none) (hget : .get ∉ events) : (s.after events).cache.kept = none := by
  induction events generalizing s with
  | nil => exact hkept
  | cons e events ih =>
    rw [List.mem_cons, not_or] at hget
    refine ih ?_ hget.2
    cases e with
    | changeEnvironment e => exact hkept
    | changeFiles f => exact hkept
    | clear => rfl
    | get => exact absurd rfl hget.1

/-- A success that has not been cleared, in which the settings were read. -/
structure FirstRead (s : Situation) (events : List CacheEvent) (k : Nat × Settings)
    (earlier later : List CacheEvent) : Prop where
  events_eq : events = earlier ++ .get :: later
  later : .clear ∉ later
  kept : (s.after earlier).cache.kept = none
  load : (s.after earlier).load = .ok k.2
  answer : (s.after earlier).answer = .ok k

theorem FirstRead.append {earlier later : List CacheEvent} (h : s.FirstRead events k earlier later)
    (hclear : e ≠ .clear) : s.FirstRead (events ++ [e]) k earlier (later ++ [e]) where
  events_eq := by rw [h.events_eq, List.append_assoc, List.cons_append]
  later := by
    rw [List.mem_append, List.mem_singleton, not_or]
    exact ⟨h.later, Ne.symm hclear⟩
  kept := h.kept
  load := h.load
  answer := h.answer

/-- What an answer is that reads the settings, and what it leaves. -/
theorem firstRead_get (hkept : (s.after events).cache.kept = none) (hanswer : (s.after events).answer = .ok k) :
    s.FirstRead (events ++ [.get]) k events [] := by
  have hload := answer_of_not_kept hkept
  rw [hanswer] at hload
  exact ⟨rfl, List.not_mem_nil, hkept, hload.symm, hanswer⟩

/-- **Where settings come from that are kept**: from the first answer since the last clearing. -/
theorem exists_firstRead (hstart : s.cache.kept = none) (hkept : (s.after events).cache.kept = some k) :
    ∃ earlier later, s.FirstRead events k earlier later := by
  induction events using List.reverseRecOn with
  | nil => cases hstart.symm.trans hkept
  | append_singleton events e ih =>
    have hstep : ((s.after events).step e).cache.kept = some k := by rwa [after_append] at hkept
    cases hbefore : (s.after events).cache.kept with
    | some k' =>
      -- there were settings already, which only a clearing would have taken away
      have hclear : e ≠ .clear := by
        rintro rfl
        cases hstep
      obtain rfl := Option.some.inj ((kept_step hbefore hclear).symm.trans hstep)
      obtain ⟨earlier, later, hfirst⟩ := ih hbefore
      exact ⟨earlier, later ++ [e], hfirst.append hclear⟩
    | none =>
      cases e with
      | changeEnvironment e => cases hbefore.symm.trans hstep
      | changeFiles f => cases hbefore.symm.trans hstep
      | clear => cases hstep
      | get =>
        cases hanswer : (s.after events).answer with
        | error f =>
          rw [(step_get_of_error hanswer).2.2, hbefore] at hstep
          cases hstep
        | ok k' =>
          obtain rfl := Option.some.inj ((kept_step_get hanswer).symm.trans hstep)
          exact ⟨events, [], firstRead_get hbefore hanswer⟩

/-! ## Across a clearing -/

theorem count_le_step (s : Situation) (e : CacheEvent) : s.cache.count ≤ (s.step e).cache.count := by
  cases e with
  | changeEnvironment e => exact Nat.le_refl _
  | changeFiles f => exact Nat.le_refl _
  | clear => exact Nat.le_refl _
  | get =>
    have hasked := s.asked
    generalize s.answer = answer, s.step .get = left at hasked ⊢
    cases hasked with
    | kept _ => exact Nat.le_refl _
    | read _ _ => exact Nat.le_succ _
    | failed _ _ => exact Nat.le_refl _

theorem count_le_after (s : Situation) (events : List CacheEvent) : s.cache.count ≤ (s.after events).cache.count := by
  induction events generalizing s with
  | nil => exact Nat.le_refl _
  | cons e events ih => exact Nat.le_trans (count_le_step s e) (ih (s.step e))

/-- The numbers of settings, from now on, start here. -/
structure Above (n : Nat) (s : Situation) : Prop where
  count : n ≤ s.cache.count
  kept : ∀ k, s.cache.kept = some k → n ≤ k.1

theorem Above.get {n : Nat} (h : s.Above n) : (∀ k, s.answer = .ok k → n ≤ k.1) ∧ (s.step .get).Above n := by
  have hasked := s.asked
  generalize s.answer = answer, s.step .get = left at hasked ⊢
  cases hasked with
  | kept hkept =>
    refine ⟨?_, h⟩
    rintro _ ⟨⟩
    exact h.kept _ hkept
  | read hkept hload =>
    refine ⟨?_, ⟨Nat.le_succ_of_le h.count, ?_⟩⟩
    · rintro _ ⟨⟩
      exact h.count
    · rintro _ ⟨⟩
      exact h.count
  | failed hkept hload => exact ⟨nofun, h⟩

theorem Above.step {n : Nat} (h : s.Above n) (e : CacheEvent) : (s.step e).Above n := by
  cases e with
  | changeEnvironment e => exact ⟨h.count, h.kept⟩
  | changeFiles f => exact ⟨h.count, h.kept⟩
  | clear => exact ⟨h.count, nofun⟩
  | get => exact h.get.2

theorem Above.after {n : Nat} (h : s.Above n) (events : List CacheEvent) : (s.after events).Above n := by
  induction events generalizing s with
  | nil => exact h
  | cons e events ih => exact ih (h.step e)

/-- The settings that are kept have been counted. -/
def Counted (s : Situation) : Prop := ∀ k, s.cache.kept = some k → k.1 < s.cache.count

theorem Counted.step (h : s.Counted) (e : CacheEvent) : (s.step e).Counted := by
  cases e with
  | changeEnvironment e => exact h
  | changeFiles f => exact h
  | clear => nofun
  | get =>
    have hasked := s.asked
    generalize s.answer = answer, s.step .get = left at hasked ⊢
    cases hasked with
    | kept hkept => exact h
    | read hkept hload =>
      rintro _ ⟨⟩
      exact Nat.lt_succ_self _
    | failed hkept hload => exact h

theorem Counted.after (h : s.Counted) (events : List CacheEvent) : (s.after events).Counted := by
  induction events generalizing s with
  | nil => exact h
  | cons e events ih => exact ih (h.step e)

/-- **Settings of two sides of a clearing** have different numbers. -/
theorem number_ne_of_clear {k' : Nat × Settings} {later : List CacheEvent} (hcounted : s.Counted)
    (hanswer : s.answer = .ok k) (hclear : .clear ∈ later) (hanswer' : (s.after (.get :: later)).answer = .ok k') :
    k'.1 ≠ k.1 := by
  obtain ⟨between, rest, rfl⟩ := List.append_of_mem hclear
  have hcount : k.1 < ((s.step .get).after between).cache.count :=
    Nat.lt_of_lt_of_le (hcounted.step .get k (kept_step_get hanswer)) (count_le_after _ between)
  -- nothing is kept when the cache is cleared, so that the next number is the count
  have habove : (((s.step .get).after between).step .clear).Above (k.1 + 1) := ⟨hcount, nofun⟩
  have hsplit : s.after (.get :: (between ++ .clear :: rest)) =
      (((s.step .get).after between).step .clear).after rest := after_append (s.step .get) between (.clear :: rest)
  rw [hsplit] at hanswer'
  have hnumber := (habove.after rest).get.1 k' hanswer'
  omega

end Situation

open Situation

/-- **Settings that are asked for after any row of events.** A success answers what could be read at the first success
    since the last clearing, when it was answered the same; it answers all later times until the next clearing, and
    no time after that. A failure is one to read the settings now, and leaves everything as it was, so that the next
    time is answered by what there is then. -/
theorem settings_cached (environment : Environment) (files : FileStore) (events : List CacheEvent) :
    let start : Situation := { environment, files }
    let now := start.after events
    (∀ k, now.answer = .ok k →
      (∃ earlier later, events ++ [.get] = earlier ++ .get :: later ∧ .clear ∉ later ∧
        (start.after earlier).load = .ok k.2 ∧ (start.after earlier).answer = .ok k ∧
        ∀ before between, earlier = before ++ .get :: between → .clear ∉ between →
          ∃ f, (start.after before).answer = .error f) ∧
      (∀ later, .clear ∉ later → (now.after (.get :: later)).answer = .ok k) ∧
      ∀ later k', .clear ∈ later → (now.after (.get :: later)).answer = .ok k' → k'.1 ≠ k.1) ∧
    ∀ f, now.answer = .error f → now.load = .error f ∧ now.step .get = now ∧
      ∀ later, .get ∉ later →
        (now.after (.get :: later)).answer.map Prod.snd = (now.after (.get :: later)).load := by
  intro start now
  refine ⟨?_, ?_⟩
  · intro k hanswer
    refine ⟨?_, ?_, ?_⟩
    · have hkept : (start.after (events ++ [.get])).cache.kept = some k := by
        rw [after_append]
        exact kept_step_get hanswer
      obtain ⟨earlier, later, hfirst⟩ := exists_firstRead rfl hkept
      refine ⟨earlier, later, hfirst.events_eq, hfirst.later, hfirst.load, hfirst.answer, ?_⟩
      rintro before between rfl hbetween
      cases hbefore : (start.after before).answer with
      | error f => exact ⟨f, rfl⟩
      | ok k' =>
        -- these settings would have been kept until now
        have hstill := kept_after (kept_step_get hbefore) hbetween
        have hnone := hfirst.kept
        rw [after_append] at hnone
        cases hnone.symm.trans hstill
    · intro later hlater
      have hkept := kept_after (kept_step_get hanswer) hlater
      exact answer_of_kept hkept
    · intro later k' hclear hanswer'
      have hcounted : start.Counted := nofun
      exact number_ne_of_clear (hcounted.after events) hanswer hclear hanswer'
  · intro f hanswer
    obtain ⟨hkept, hload, hstep⟩ := step_get_of_error hanswer
    refine ⟨hload, hstep, ?_⟩
    intro later hlater
    apply answer_of_not_kept
    show ((now.step .get).after later).cache.kept = none
    rw [hstep]
    exact not_kept_after hkept hlater

/-! ## A number of runs that changes -/

def noRuns : Environment := [("BENCHMARK_RUNS", "0")]

def fiveRuns : Environment := [("benchmark_runs", "5")]

def manyRuns : Environment := [("BENCHMARK_RUNS", "many")]

def withNoRuns : Situation := { environment := noRuns, files := .empty }

/-- A number that is too small is not kept, and a word is not noticed until the cache is cleared. -/
theorem settings_cached_runs :
    (∃ f, withNoRuns.answer = .error f ∧ withNoRuns.step .get = withNoRuns) ∧
    ∃ k, (withNoRuns.after [.get, .changeEnvironment fiveRuns]).answer = .ok k ∧ k.2.runs = some 5 ∧
      (withNoRuns.after [.get, .changeEnvironment fiveRuns, .get, .changeEnvironment manyRuns]).answer = .ok k ∧
      ∃ k', (withNoRuns.after [.get, .changeEnvironment fiveRuns, .get, .changeEnvironment manyRuns, .clear,
        .changeEnvironment fiveRuns]).answer = .ok k' ∧ k'.1 ≠ k.1 := by
  constructor
  · have hfails : ∃ f, withNoRuns.answer = .error f := by
      cases hanswer : withNoRuns.answer with
      | error f => exact ⟨f, rfl⟩
      | ok k =>
        have hnot : ¬ withNoRuns.answer.isOk := by decide +kernel
        rw [hanswer] at hnot
        exact absurd rfl hnot
    obtain ⟨f, hanswer⟩ := hfails
    exact ⟨f, hanswer, ((settings_cached noRuns .empty []).2 f hanswer).2.1⟩
  · have hok : (withNoRuns.after [.get, .changeEnvironment fiveRuns]).answer.map (fun k => k.2.runs) =
        .ok (some 5) := by decide +kernel
    obtain ⟨k, hanswer, hruns⟩ := exists_of_map_ok hok
    have hagain : (withNoRuns.after [.get, .changeEnvironment fiveRuns, .get, .changeEnvironment manyRuns, .clear,
        .changeEnvironment fiveRuns]).answer.isOk := by decide +kernel
    obtain ⟨k', hanswer'⟩ := exists_ok_of_isOk hagain
    obtain ⟨-, hlater, hacross⟩ :=
      (settings_cached noRuns .empty [.get, .changeEnvironment fiveRuns]).1 k hanswer
    refine ⟨k, hanswer, hruns, hlater [.changeEnvironment manyRuns] (by simp), k', hanswer', ?_⟩
    exact hacross [.changeEnvironment manyRuns, .clear, .changeEnvironment fiveRuns] k' (by simp) hanswer'

end RenderBench
