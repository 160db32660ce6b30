import Mathlib.Tactic.ByContra
import RenderBench.Template.Basic

/-!
# `Proofs.Template.Sink` — rendering into a sink

A block is rendered into a sink chunk by chunk, and the sink decides how far that goes: it takes chunks up
to the first one that it refuses. What the block yields does not depend on the sink, so two sinks that
start with the same text end with texts of which one continues the other.

## Contents
- `Sink.Takes`, `Sink.LongestRun`: which chunks a sink takes, said without writing any.
- `Sink.writeAll_eq`: writing takes the longest run.
- `Template.Trace.into`, `into_bind`: rendering into a sink goes from step to step.
- `Template.course`: what a sub-template yields and how that ends.
- `renderInto_longestRun`: rendering into a sink.
-/

namespace RenderBench

open RenderBench.Template (Block Value Trace Eval Fault)

/-! ## What a sink takes -/

namespace Sink

/-- Whether a sink with a limit takes a chunk while it holds a text: an empty chunk always, any other while
    the text is shorter than the limit. -/
def Takes (limit : Option Nat) (held chunk : String) : Prop :=
  chunk = "" ∨ ∀ n, limit = some n → held.length < n

/-- The first `k` chunks are those that a sink takes one after the other, and the next one, if there is one,
    is refused. -/
structure LongestRun (limit : Option Nat) (held : String) (chunks : List String) (k : Nat) : Prop where
  le_length : k ≤ chunks.length
  takes : ∀ j c, chunks[j]? = some c → j < k → Takes limit (held ++ String.join (chunks.take j)) c
  refuses : ∀ c, chunks[k]? = some c → ¬Takes limit (held ++ String.join (chunks.take k)) c

/-- Whether one limit lets less through than another; no limit lets everything through. -/
def Tighter (limit limit' : Option Nat) : Prop :=
  ∀ n, limit' = some n → ∃ m, limit = some m ∧ m ≤ n

variable {limit limit' : Option Nat} {held chunk : String} {chunks : List String} {k k' : Nat}
  {s : Sink}

theorem takes_unlimited (held chunk : String) : Takes none held chunk :=
  Or.inr fun _ h => nomatch h

theorem Takes.mono (h : Tighter limit limit') (htakes : Takes limit held chunk) :
    Takes limit' held chunk := by
  rcases htakes with hempty | hroom
  · exact Or.inl hempty
  · refine Or.inr fun n hn => ?_
    obtain ⟨m, hm, hmn⟩ := h n hn
    exact Nat.lt_of_lt_of_le (hroom m hm) hmn

/-! ## Writing -/

theorem write_of_takes (h : Takes s.limit s.text chunk) :
    s.write chunk = some { s with text := s.text ++ chunk } := by
  have hroom : (!chunk.isEmpty && s.isFull) = false := by
    rcases h with rfl | hroom
    · rfl
    · rw [Bool.and_eq_false_iff]
      refine Or.inr ?_
      unfold isFull
      cases hlimit : s.limit with
      | none => rfl
      | some n => exact decide_eq_false (Nat.not_le.mpr (hroom n hlimit))
  rw [write, hroom]
  rfl

theorem write_of_not_takes (h : ¬Takes s.limit s.text chunk) : s.write chunk = none := by
  obtain ⟨hne, hfull⟩ := not_or.mp h
  obtain ⟨n, hlimit, hn⟩ : ∃ n, s.limit = some n ∧ n ≤ s.text.length := by
    by_contra hno
    exact hfull fun n hlimit => Nat.not_le.mp fun hn => hno ⟨n, hlimit, hn⟩
  have hwrite : (!chunk.isEmpty && s.isFull) = true := by
    rw [isFull, hlimit]
    simp [hne, hn]
  rw [write, hwrite]
  rfl

namespace LongestRun

theorem nil (limit : Option Nat) (held : String) : LongestRun limit held [] 0 :=
  ⟨Nat.le_refl 0, fun _ _ h _ => (nomatch h), fun _ h => (nomatch h)⟩

theorem refused (h : ¬Takes limit held chunk) : LongestRun limit held (chunk :: chunks) 0 where
  le_length := Nat.zero_le _
  takes _ _ _ hj := absurd hj (Nat.not_lt_zero _)
  refuses c hc := by
    obtain rfl : chunk = c := Option.some.inj hc
    rwa [List.take_zero, String.join_nil, String.append_empty]

/-- A chunk that is taken is held when the run goes on. -/
theorem cons (h : Takes limit held chunk) (hrun : LongestRun limit (held ++ chunk) chunks k) :
    LongestRun limit held (chunk :: chunks) (k + 1) where
  le_length := Nat.succ_le_succ hrun.le_length
  takes j c hc hj := by
    cases j with
    | zero =>
      obtain rfl : chunk = c := Option.some.inj hc
      rwa [List.take_zero, String.join_nil, String.append_empty]
    | succ j =>
      rw [List.take_succ_cons, String.join_cons, ← String.append_assoc]
      exact hrun.takes j c hc (Nat.lt_of_succ_lt_succ hj)
  refuses c hc := by
    rw [List.take_succ_cons, String.join_cons, ← String.append_assoc]
    exact hrun.refuses c hc

/-- A looser limit never ends a run earlier. -/
theorem le (h : Tighter limit limit') (hrun : LongestRun limit held chunks k)
    (hrun' : LongestRun limit' held chunks k') : k ≤ k' := by
  by_contra hlt
  -- the chunk that ended the looser run was taken in the tighter one
  have hk' : k' < k := Nat.not_le.mp hlt
  have hget := List.getElem?_eq_getElem (Nat.lt_of_lt_of_le hk' hrun.le_length)
  exact hrun'.refuses _ hget ((hrun.takes k' _ hget hk').mono h)

/-- Without a limit a run does not end. -/
theorem eq_length (hrun : LongestRun none held chunks k) : k = chunks.length := by
  refine Nat.le_antisymm hrun.le_length (Nat.not_lt.mp fun hlt => ?_)
  exact hrun.refuses _ (List.getElem?_eq_getElem hlt) (takes_unlimited _ _)

end LongestRun

/-- **Writing takes the longest run.** -/
theorem writeAll_eq (chunks : List String) : ∀ s : Sink,
    ∃ k, LongestRun s.limit s.text chunks k ∧
      s.writeAll chunks = ({ s with text := s.text ++ String.join (chunks.take k) },
        decide (k = chunks.length)) := by
  induction chunks with
  | nil =>
    intro s
    refine ⟨0, LongestRun.nil _ _, ?_⟩
    rw [List.take_zero, String.join_nil, String.append_empty]
    rfl
  | cons c cs ih =>
    intro s
    by_cases htakes : Takes s.limit s.text c
    · -- the rest of the run is that of the sink with the chunk in it
      obtain ⟨k, hrun, hwrite⟩ := ih { s with text := s.text ++ c }
      refine ⟨k + 1, hrun.cons htakes, ?_⟩
      rw [writeAll, write_of_takes htakes]
      show writeAll { s with text := s.text ++ c } cs = _
      rw [hwrite, List.take_succ_cons, String.join_cons, String.append_assoc, List.length_cons]
      simp
    · refine ⟨0, LongestRun.refused htakes, ?_⟩
      rw [writeAll, write_of_not_takes htakes, List.take_zero, String.join_nil, String.append_empty]
      rfl

theorem writeAll_append (cs ds : List String) : ∀ s : Sink,
    s.writeAll (cs ++ ds) =
      match s.writeAll cs with
      | (s, true) => s.writeAll ds
      | (s, false) => (s, false) := by
  induction cs with
  | nil => exact fun s => rfl
  | cons c cs ih =>
    intro s
    rw [List.cons_append, writeAll, writeAll]
    cases s.write c with
    | none => rfl
    | some s => exact ih s

end Sink

/-! ## Rendering step by step -/

namespace Template.Trace

variable {α β : Type}

/-- A rendering whose chunks go into a sink; the first chunk that is refused ends it. -/
def into (t : Trace α) (s : Sink) : Sink × Eval α :=
  match s.writeAll t.chunks with
  | (s, true) => (s, t.result)
  | (s, false) => (s, .error .sinkFull)

/-- The sink takes the longest run of the chunks; if that is all of them, the rendering ends as it does by
    itself. -/
theorem into_eq (t : Trace α) (s : Sink) :
    ∃ k, Sink.LongestRun s.limit s.text t.chunks k ∧
      t.into s = ({ s with text := s.text ++ String.join (t.chunks.take k) },
        if k = t.chunks.length then t.result else .error .sinkFull) := by
  obtain ⟨k, hrun, hwrite⟩ := Sink.writeAll_eq t.chunks s
  refine ⟨k, hrun, ?_⟩
  rw [into, hwrite]
  by_cases hk : k = t.chunks.length
  · rw [if_pos hk, decide_eq_true hk]
  · rw [if_neg hk, decide_eq_false hk]

/-- **Rendering into a sink goes step by step.** The second rendering starts with the sink that the first
    one left, and only if the first one ended well, by itself and for the sink. -/
theorem into_bind (t : Trace α) (f : α → Trace β) (s : Sink) :
    (t >>= f).into s =
      match t.into s with
      | (s, .ok a) => (f a).into s
      | (s, .error e) => (s, .error e) := by
  show (t.andThen f).into s = _
  cases hresult : t.result with
  | ok a =>
    rw [andThen_ok f hresult, into, into, Sink.writeAll_append, hresult]
    rcases s.writeAll t.chunks with ⟨s, _ | _⟩
    · rfl
    · rfl
  | error e =>
    rw [andThen_error f hresult, into, into, hresult]
    rcases s.writeAll t.chunks with ⟨s, _ | _⟩
    · rfl
    · rfl

end Template.Trace

/-! ## Sub-templates -/

/-- How a fault ends the rendering of a sub-template. -/
def Template.failed (name : String) (f : Fault) : RenderError := ⟨name, .failed f⟩

/-- What a sub-template yields, and how that ends when nothing stops it. A name without a block yields
    nothing. -/
def Template.course (t : Template) (name : String) (items : Value) :
    List String × Except RenderError Unit :=
  match t.document.blocks.find? fun b => b.name == name with
  | none => ([], .error ⟨name, .noSubTemplate t.name⟩)
  | some b => ((t.trace b items).chunks, (t.trace b items).result.mapError (failed name))

variable {t : Template} {name : String} {items : Value}

theorem renderInto_of_find {b : Block}
    (h : (t.document.blocks.find? fun b => b.name == name) = some b) (s : Sink) :
    t.renderInto s name items =
      (((t.trace b items).into s).1, ((t.trace b items).into s).2.mapError (Template.failed name)) := by
  rw [Template.renderInto, h, Trace.into]
  rcases hwrite : s.writeAll (t.trace b items).chunks with ⟨s, _ | _⟩
  · simp only [hwrite]
    rfl
  · simp only [hwrite]
    cases (t.trace b items).result with
    | ok _ => rfl
    | error f => rfl

theorem course_error_name {e : RenderError} (h : (t.course name items).2 = .error e) :
    e.name = name := by
  unfold Template.course at h
  split at h
  · cases h
    rfl
  · rename_i b _
    cases hresult : (t.trace b items).result with
    | ok _ =>
      rw [hresult] at h
      cases h
    | error f =>
      rw [hresult] at h
      cases h
      rfl

/-- The sink takes the longest run of what the sub-template yields; if that is all of it, the rendering ends
    as the sub-template does. -/
theorem renderInto_eq (t : Template) (s : Sink) (name : String) (items : Value) :
    ∃ k, Sink.LongestRun s.limit s.text (t.course name items).1 k ∧
      t.renderInto s name items =
        ({ s with text := s.text ++ String.join ((t.course name items).1.take k) },
          if k = (t.course name items).1.length then (t.course name items).2
          else .error (Template.failed name .sinkFull)) := by
  cases hfind : t.document.blocks.find? fun b => b.name == name with
  | none =>
    rw [Template.renderInto, Template.course, hfind]
    refine ⟨0, Sink.LongestRun.nil _ _, ?_⟩
    rw [List.take_zero, String.join_nil, String.append_empty]
    rfl
  | some b =>
    obtain ⟨k, hrun, hinto⟩ := (t.trace b items).into_eq s
    rw [renderInto_of_find hfind, Template.course, hfind]
    refine ⟨k, hrun, ?_⟩
    rw [hinto]
    -- the rendering has its own end if all chunks have been taken
    by_cases hk : k = (t.trace b items).chunks.length
    · rw [if_pos hk, if_pos hk]
    · rw [if_neg hk, if_neg hk]
      rfl

/-- A run that ends no earlier holds a text that goes on. -/
theorem join_take_of_le (chunks : List String) {k k' : Nat} (h : k ≤ k') :
    ∃ rest, String.join (chunks.take k') = String.join (chunks.take k) ++ rest := by
  refine ⟨String.join ((chunks.take k').drop k), ?_⟩
  have hsplit := List.take_append_drop k (chunks.take k')
  rw [List.take_take, Nat.min_eq_left h] at hsplit
  rw [← String.join_append, hsplit]

/-- The text of a sub-template is all that it yields, if it ends well. -/
theorem render_eq (t : Template) (name : String) (items : Value) :
    t.render name items = (t.course name items).2.map fun _ => String.join (t.course name items).1 := by
  obtain ⟨k, hrun, hinto⟩ := renderInto_eq t {} name items
  have hk : k = (t.course name items).1.length := hrun.eq_length
  rw [Template.render, hinto, if_pos hk, hk, List.take_length]
  cases (t.course name items).2 with
  | ok _ => exact congrArg Except.ok (String.empty_append)
  | error e => rfl

/-- **Rendering into a sink.** Whatever the sink holds and whatever its limit is, it is left with its text
    followed by the longest run of the sub-template's chunks of which every non-empty one found it holding
    fewer characters than the limit. The rendering succeeds if that is all of them and the sub-template
    ends well; every failure is told under the sub-template's name. So a looser limit leaves a text that
    goes on where a tighter one ends, and the text of the sub-template is what a sink without a limit is
    left with after the text that it held. -/
theorem renderInto_longestRun (t : Template) (name : String) (items : Value) :
    (∀ s : Sink, ∃ k, Sink.LongestRun s.limit s.text (t.course name items).1 k ∧
      (s.limit = none → k = (t.course name items).1.length) ∧
      (t.renderInto s name items).1 =
        { s with text := s.text ++ String.join ((t.course name items).1.take k) } ∧
      ((t.renderInto s name items).2 = .ok () ↔
        k = (t.course name items).1.length ∧ (t.course name items).2 = .ok ()) ∧
      ∀ e, (t.renderInto s name items).2 = .error e → e.name = name) ∧
    (∀ held limit limit', Sink.Tighter limit limit' →
      ∃ rest, (t.renderInto ⟨held, limit'⟩ name items).1.text =
        (t.renderInto ⟨held, limit⟩ name items).1.text ++ rest) ∧
    ∀ held text, t.render name items = .ok text ↔
      t.renderInto ⟨held, none⟩ name items = (⟨held ++ text, none⟩, .ok ()) := by
  refine ⟨?_, ?_, ?_⟩
  · -- one sink
    intro s
    obtain ⟨k, hrun, hinto⟩ := renderInto_eq t s name items
    rw [hinto]
    refine ⟨k, hrun, fun hlimit => (hlimit ▸ hrun).eq_length, rfl, ?_, ?_⟩
    · by_cases hk : k = (t.course name items).1.length
      · rw [if_pos hk]
        exact (and_iff_right hk).symm
      · rw [if_neg hk]
        exact ⟨fun h => (nomatch h), fun h => absurd h.1 hk⟩
    · intro e he
      by_cases hk : k = (t.course name items).1.length
      · rw [if_pos hk] at he
        exact course_error_name he
      · rw [if_neg hk] at he
        cases he
        rfl
  · -- two limits
    intro held limit limit' htighter
    obtain ⟨k, hrun, hinto⟩ := renderInto_eq t ⟨held, limit⟩ name items
    obtain ⟨k', hrun', hinto'⟩ := renderInto_eq t ⟨held, limit'⟩ name items
    obtain ⟨rest, hrest⟩ := join_take_of_le (t.course name items).1 (hrun.le htighter hrun')
    refine ⟨rest, ?_⟩
    rw [hinto, hinto', hrest]
    exact String.append_assoc.symm
  · -- no limit
    intro held text
    obtain ⟨k, hrun, hinto⟩ := renderInto_eq t ⟨held, none⟩ name items
    have hk : k = (t.course name items).1.length := hrun.eq_length
    rw [hinto, if_pos hk, hk, List.take_length, render_eq]
    cases hend : (t.course name items).2 with
    | ok _ => simp [Except.map]
    | error e => simp [Except.map]

end RenderBench
