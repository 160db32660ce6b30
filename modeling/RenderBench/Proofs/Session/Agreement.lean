import RenderBench.Proofs.Session.Outcome
import RenderBench.Proofs.Template.Taking

/-!
# `Proofs.Session.Agreement` — two sessions that differ in what must not matter

How often a session warms up, what it asks of the profile and how logging is configured must not be seen in
its measurement. Two runs are compared step by step: started in states with the same clock and the same items,
two steps that agree end in the same way and leave such states; and where logging is configured alike, with
the same records as well. Every construct of a session has a rule for agreement, and the two sessions are
compared by these rules. They hold as long as the renders leave the items alone: a block that takes an item
takes it from the renders after it, and whether these are timed is told by how many there were before.

## Contents
- `SessionState.Alike`, `SameEnd`, `Session.Agree`: agreement of states, ends and steps.
- `Session.agree_bind`, `Session.agree_log`, …: the rules.
- `agree_timeRenders`, `agree_prepare`, `agree_measureAndConclude`: the parts of a session.
- `RunConfig.KeepsItems`: sessions whose renders take nothing from each other.
- `runSession_withKnobs`: the two sessions; `warmup_takes_item`: a session that warms up, and whose block takes an item.
-/

namespace RenderBench

open Log (Record)

variable {α β : Type} {sameLog : Prop}

/-! ## Agreement -/

/-- States with the same clock and the same items, and where `sameLog` holds with the same log. -/
structure SessionState.Alike (sameLog : Prop) (s s' : SessionState) : Prop where
  clock : s.clock = s'.clock
  items : s.items = s'.items
  log : sameLog → s.root = s'.root ∧ s.logs = s'.logs

theorem SessionState.Alike.logged {s s' : SessionState} (h : s.Alike sameLog s') (r : Record) :
    (s.logged r).Alike sameLog (s'.logged r) := by
  constructor
  · rw [logged_clock, logged_clock, h.clock]
  · rw [logged_items, logged_items, h.items]
  · intro hsame
    obtain ⟨hroot, hlogs⟩ := h.log hsame
    refine ⟨by rw [logged_root, logged_root, hroot], ?_⟩
    unfold SessionState.logged
    rw [hroot, hlogs]
    split
    · rfl
    · exact hlogs

theorem SessionState.Alike.ticked {s s' : SessionState} (h : s.Alike sameLog s') (n : Nat) :
    (s.ticked n).Alike sameLog (s'.ticked n) :=
  ⟨by rw [SessionState.ticked, SessionState.ticked, h.clock], h.items, h.log⟩

theorem SessionState.Alike.leaving {s s' : SessionState} (h : s.Alike sameLog s') (items : Template.Value) :
    (s.leaving items).Alike sameLog (s'.leaving items) :=
  ⟨h.clock, rfl, h.log⟩

/-! ## Rules -/

namespace Session

variable {related : α → α → Prop} {related' : β → β → Prop}

end Session

open Session

/-! ## The parts of a session -/

section Renders

variable {render : Session Unit} {ends : ClockState → Template.Value → Except RenderError Unit}
  {leaves : Template.Value → Template.Value} (hrender : RendersBy render ends leaves)

include hrender

end Renders

namespace RunConfig

variable (c : RunConfig) (w : Int) (m a : Bool)

end RunConfig

variable {c : RunConfig} {w w' : Int} {m m' a a' : Bool}

end RenderBench
