/-!
# `Proofs.Stepwise` — one step after another

Sessions and commands are steps on a state, and a step that fails is the last one. What a sequence of steps
gives is told by two equations, for either end of the first step. Checks have no state, and a sequence of
them that succeeds is taken apart.
-/

namespace RenderBench

section

variable {ε α β : Type}

/-- Checks one after the other succeed when each does. -/
theorem exists_of_bind_ok {x : Except ε α} {f : α → Except ε β} {b : β} (h : x >>= f = .ok b) :
    ∃ a, x = .ok a ∧ f a = .ok b := by
  cases x with
  | error e => cases h
  | ok a => exact ⟨a, rfl, h⟩

theorem exists_of_map_ok {x : Except ε α} {f : α → β} {b : β} (h : x.map f = .ok b) :
    ∃ a, x = .ok a ∧ f a = b := by
  cases x with
  | error e => cases h
  | ok a => exact ⟨a, rfl, Except.ok.inj h⟩

/-- What every check keeps, a sequence of them that succeeds does. -/
theorem of_foldlM_ok {P : β → Prop} {f : β → α → Except ε β}
    (hstep : ∀ {b b' : β} {a : α}, P b → f b a = .ok b' → P b') (as : List α) :
    ∀ {b b' : β}, P b → as.foldlM f b = .ok b' → P b' := by
  induction as with
  | nil =>
    intro b b' h hfold
    obtain rfl := Except.ok.inj hfold
    exact h
  | cons first rest ih =>
    intro b b' h hfold
    rw [List.foldlM_cons] at hfold
    obtain ⟨next, hnext, hrest⟩ := exists_of_bind_ok hfold
    exact ih (hstep h hnext) hrest

theorem exists_ok_of_isOk {x : Except ε α} (h : x.isOk) : ∃ a, x = .ok a := by
  cases x with
  | ok a => exact ⟨a, rfl⟩
  | error e => cases h

theorem ne_error_of_map {x : Except ε α} {e : ε} (h : (x.map fun _ => ()) ≠ .error e) : x ≠ .error e := by
  rintro rfl
  exact h rfl

theorem ok_of_mapError_ok {ε' : Type} {x : Except ε α} {f : ε → ε'} {a : α}
    (h : x.mapError f = .ok a) : x = .ok a := by
  cases x with
  | error e => cases h
  | ok b => exact congrArg Except.ok (Except.ok.inj h)

end

namespace Stepwise

variable {ε σ α β : Type} {s s' : σ}

theorem run_bind (p : ExceptT ε (StateM σ) α) (f : α → ExceptT ε (StateM σ) β) (s : σ) :
    ExceptT.run (p >>= f) s =
      match ExceptT.run p s with
      | (.ok a, s') => ExceptT.run (f a) s'
      | (.error e, s') => (.error e, s') := by
  -- the transformer's own sequencing is opened here and nowhere else
  show (ExceptT.bindCont f ((ExceptT.run p s).1)) (ExceptT.run p s).2 = _
  rcases ExceptT.run p s with ⟨r | a, s'⟩ <;> rfl

/-- A step that succeeds hands its value and its state on. -/
theorem run_bind_ok {p : ExceptT ε (StateM σ) α} {a : α} (f : α → ExceptT ε (StateM σ) β)
    (h : ExceptT.run p s = (.ok a, s')) : ExceptT.run (p >>= f) s = ExceptT.run (f a) s' := by
  rw [run_bind, h]

/-- A step that fails is the last one. -/
theorem run_bind_error {p : ExceptT ε (StateM σ) α} {e : ε} (f : α → ExceptT ε (StateM σ) β)
    (h : ExceptT.run p s = (.error e, s')) : ExceptT.run (p >>= f) s = (.error e, s') := by
  rw [run_bind, h]

/-- A step that succeeds needs no other in its place. -/
theorem run_tryCatch_ok {p : ExceptT ε (StateM σ) α} {a : α} (f : ε → ExceptT ε (StateM σ) α)
    (h : ExceptT.run p s = (.ok a, s')) : ExceptT.run (tryCatch p f) s = (.ok a, s') := by
  have hp : p s = (.ok a, s') := h
  simp only [tryCatch, tryCatchThe, MonadExceptOf.tryCatch, ExceptT.tryCatch, ExceptT.run_mk]
  simp only [bind, StateT.bind, hp]
  rfl

/-- What stands in for a step that fails goes on from the state that the failure left. -/
theorem run_tryCatch_error {p : ExceptT ε (StateM σ) α} {e : ε} (f : ε → ExceptT ε (StateM σ) α)
    (h : ExceptT.run p s = (.error e, s')) : ExceptT.run (tryCatch p f) s = ExceptT.run (f e) s' := by
  have hp : p s = (.error e, s') := h
  simp only [tryCatch, tryCatchThe, MonadExceptOf.tryCatch, ExceptT.tryCatch, ExceptT.run_mk]
  simp only [bind, StateT.bind, hp]
  rfl

end Stepwise

end RenderBench
