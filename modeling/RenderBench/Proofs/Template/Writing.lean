import Mathlib.Data.List.Forall2
import RenderBench.Template.Execute

/-!
# `Proofs.Template.Writing` — what statements write

A rendering that ends well has written a text, and what a statement writes is put together from what its
parts write. There is one rule for each of the statements that plain templates are made of: output,
branches and loops over a list.

## Contents
- `Trace.Writes`: a rendering that ends well, and its text.
- `Piece.Writes`, `writes_writePieces`: output.
- `writes_runLoop`: a loop.
- `writes_output`, `writes_branch`, `writes_forLoop`, `writes_cons`: statements.
-/

namespace RenderBench.Template

variable {α β : Type}

namespace Trace

/-- A rendering that ends with a value after it has written a text. -/
structure Writes (t : Trace α) (text : String) (a : α) : Prop where
  result : t.result = .ok a
  chunks : String.join t.chunks = text

theorem writes_pure (a : α) : (pure a : Trace α).Writes "" a := ⟨rfl, rfl⟩

theorem writes_write (s : String) : (write s).Writes s () :=
  ⟨rfl, by rw [write, String.join_cons, String.join_nil, String.append_empty]⟩

theorem writes_ofEval {e : Eval α} {a : α} (h : e = .ok a) : (ofEval e).Writes "" a := ⟨h, rfl⟩

/-- One rendering after another: the texts follow each other. -/
theorem Writes.bind {t : Trace α} {f : α → Trace β} {text text' : String} {a : α} {b : β}
    (ht : t.Writes text a) (hf : (f a).Writes text' b) : (t >>= f).Writes (text ++ text') b := by
  show (t.andThen f).Writes (text ++ text') b
  rw [andThen_ok f ht.result]
  refine ⟨hf.result, ?_⟩
  rw [String.join_append, ht.chunks, hf.chunks]

theorem Writes.discard {t : Trace α} {text : String} {a : α} (h : t.Writes text a) :
    (discard t).Writes text () := by
  have hdone : (t >>= fun _ => pure ()).Writes (text ++ "") () := h.bind (writes_pure ())
  rwa [String.append_empty] at hdone

/-- A value from an evaluation, and then a rendering with it. -/
theorem Writes.eval {e : Eval α} {f : α → Trace β} {text : String} {a : α} {b : β} (he : e = .ok a)
    (hf : (f a).Writes text b) : (ofEval e >>= f).Writes text b := by
  have hboth := (writes_ofEval he).bind hf
  rwa [String.empty_append] at hboth

end Trace

open Trace

variable {m : Machine} {s s' s'' : Scope}

/-! ## Output -/

/-- What a piece of output writes: a text itself, and an expression that depends on the rendering the
    text of its value. -/
inductive Piece.Writes (m : Machine) (s : Scope) : Piece → String → Prop where
  | text (t : String) : Piece.Writes m s (.text t) t
  | value {e : Expr} {v : Value} (hopen : constValue s.escape e = none)
      (hvalue : evaluate m s e = .ok v) : Piece.Writes m s (.value e) (v.written s.escape)

theorem writes_writeKnown (known : List String) :
    (writePieces.writeKnown known).Writes (String.join known.reverse) () := by
  unfold writePieces.writeKnown
  cases known with
  | nil => exact writes_pure ()
  | cons t ts => exact writes_write _

/-- Output writes what its pieces write, after the texts that are known already. -/
theorem writes_writePieces {ps : List Piece} {ts : List String}
    (h : List.Forall₂ (Piece.Writes m s) ps ts) : ∀ known,
      (writePieces m s known ps).Writes (String.join known.reverse ++ String.join ts) () := by
  induction h with
  | nil =>
    intro known
    rw [String.join_nil, String.append_empty]
    exact writes_writeKnown known
  | @cons _ t _ _ hp _ ih =>
    intro known
    cases hp with
    | text =>
      -- a text waits among the known ones for the next value
      have hrest := ih (t :: known)
      rwa [List.reverse_cons, String.join_append, String.join_cons, String.join_nil,
        String.append_empty, String.append_assoc, ← String.join_cons] at hrest
    | @value e v hopen hvalue =>
      have hpiece : (Piece.value e).constant? s.escape = none := by
        rw [Piece.constant?, hopen]
        rfl
      rw [writePieces, hpiece, String.join_cons]
      refine (writes_writeKnown known).bind (Writes.eval hvalue ((writes_write _).bind ?_))
      have hrest := ih []
      rwa [List.reverse_nil, String.join_nil, String.empty_append] at hrest

theorem writes_output {ps : List Piece} {ts : List String} (hparent : s.parent = none)
    (h : List.Forall₂ (Piece.Writes m s) ps ts) :
    (execute m s (.output ps)).Writes (String.join ts) s := by
  have hpieces := writes_writePieces h []
  rw [List.reverse_nil, String.join_nil, String.empty_append] at hpieces
  have hdone : (writePieces m s [] ps >>= fun _ => pure s).Writes (String.join ts ++ "") s :=
    hpieces.bind (writes_pure s)
  rw [String.append_empty] at hdone
  rw [execute, hparent]
  exact hdone

/-- Pieces that are a text and another piece by turns. -/
theorem writes_cell {p : Piece} {ps : List Piece} {t : String} {ts : List String} (before : String)
    (hp : Piece.Writes m s p t) (h : List.Forall₂ (Piece.Writes m s) ps ts) :
    List.Forall₂ (Piece.Writes m s) (.text before :: p :: ps) (before :: t :: ts) :=
  .cons (.text before) (.cons hp h)

theorem writes_last (t : String) : List.Forall₂ (Piece.Writes m s) [.text t] [t] :=
  .cons (.text t) .nil

theorem writes_text (t : String) (hparent : s.parent = none) :
    (execute m s (.output [.text t])).Writes t s := by
  have honly := writes_output (m := m) hparent (writes_last t)
  rwa [String.join_cons, String.join_nil, String.append_empty] at honly

/-! ## Branches and loops -/

/-- A branch writes what its side writes. -/
theorem writes_branch {test : Expr} {v : Value} {body otherwise : List Stmt} {text : String}
    (htest : evaluate m s test = .ok v)
    (hside : (executeAll m s (if v.isTruthy then body else otherwise)).Writes text s') :
    (execute m s (.branch test body otherwise)).Writes text s' := by
  rw [execute]
  refine Writes.eval htest ?_
  cases hv : v.isTruthy with
  | true =>
    rw [hv] at hside
    exact hside
  | false =>
    rw [hv] at hside
    exact hside

/-- A loop writes what its body writes for each element, whatever is around the element. -/
theorem writes_runLoop {body : Nat → List Value → Value → List Value → Trace Unit} {value : α → Value}
    {text : α → String} {xs : List α}
    (h : ∀ x ∈ xs, ∀ index previous next,
      (body index previous (value x) next).Writes (text x) ()) : ∀ index previous,
      (runLoop body index previous (xs.map value)).Writes (String.join (xs.map text)) () := by
  induction xs with
  | nil => exact fun _ _ => writes_pure ()
  | cons x xs ih =>
    intro index previous
    have hfirst := h x (List.mem_cons_self ..) index previous ((xs.map value).take 1)
    have hrest := ih (fun y hy => h y (List.mem_cons_of_mem x hy)) (index + 1) [value x]
    rw [List.map_cons, List.map_cons, String.join_cons, runLoop]
    exact hfirst.bind hrest

/-- A loop over a list that does not ask for its own state. -/
theorem writes_forLoop {line : Nat} {name : String} {source : Expr} {value : α → Value}
    {text : α → String} {xs : List α} {body : List Stmt}
    (hsource : evaluate m s source = .ok (.list (xs.map value)))
    (hplain : (Stmt.anyMentions "loop" body || Stmt.anyLocalBlock body) = false)
    (hbody : ∀ x ∈ xs,
      ∃ after, (executeAll m (s.inside [(name, value x)]) body).Writes (text x) after) :
    (execute m s (.forLoop (.name line name) source none false body [])).Writes
      (String.join (xs.map text)) s := by
  have hstateful : (false || Stmt.anyMentions "loop" body || Stmt.anyLocalBlock body ||
      Stmt.anyLocalBlock []) = false := by
    rw [Bool.false_or, hplain]
    rfl
  have hloop : (runLoop (fun _ _ v _ => do
      let names ← ofEval (bindTarget (.name line name) v)
      discard (executeAll m (s.inside names) body)) 0 [] (xs.map value)).Writes
        (String.join (xs.map text)) () := by
    refine writes_runLoop (fun x hx _ _ _ => ?_) 0 []
    obtain ⟨after, hwrites⟩ := hbody x hx
    exact Writes.eval rfl hwrites.discard
  -- the statements for an empty list are none
  have hend : (if (xs.map value).isEmpty
      then discard (executeAll m (s.inside []) []) >>= fun _ => pure s
      else pure s : Trace Scope).Writes "" s := by
    cases xs with
    | nil => exact writes_pure s
    | cons x xs => exact writes_pure s
  rw [execute, ← String.append_empty (s := String.join (xs.map text))]
  refine Writes.eval hsource (Writes.eval rfl ?_)
  simp only [hstateful, Bool.false_eq_true, if_false]
  exact hloop.bind hend

/-! ## Statements one after the other -/

theorem writes_nil : (executeAll m s []).Writes "" s := writes_pure s

theorem writes_cons {st : Stmt} {rest : List Stmt} {text text' : String}
    (hfirst : (execute m s st).Writes text s') (hrest : (executeAll m s' rest).Writes text' s'') :
    (executeAll m s (st :: rest)).Writes (text ++ text') s'' := by
  rw [executeAll]
  exact hfirst.bind hrest

theorem writes_single {st : Stmt} {text : String} (h : (execute m s st).Writes text s') :
    (executeAll m s [st]).Writes text s' := by
  have hone := writes_cons h writes_nil
  rwa [String.append_empty] at hone

end RenderBench.Template
