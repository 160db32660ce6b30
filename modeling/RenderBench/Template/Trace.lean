import RenderBench.Template.Operators

/-!
# `Template.Trace` — what rendering writes, and how it ends

Rendering writes chunks of text one after the other and ends with a result or a fault. What was written
before a fault stays written.

## Contents
- `Trace`: the chunks and the end; its monad runs one rendering after another.
- `Trace.write`, `Trace.ofEval`: one chunk, and no chunks.
- `Trace.text`: all chunks as one text, for output that is kept and not written.
-/

namespace RenderBench.Template

structure Trace (α : Type) where
  chunks : List String
  result : Eval α

namespace Trace

/-- A result without output. -/
def ofEval {α : Type} (e : Eval α) : Trace α := ⟨[], e⟩

def write (s : String) : Trace Unit := ⟨[s], .ok ()⟩

/-- One rendering, and then another that depends on the result of the first. -/
def andThen {α β : Type} (t : Trace α) (f : α → Trace β) : Trace β :=
  match t.result with
  | .ok a => ⟨t.chunks ++ (f a).chunks, (f a).result⟩
  | .error e => ⟨t.chunks, .error e⟩

instance : Monad Trace where
  pure a := ofEval (.ok a)
  bind := andThen

instance : MonadLift Eval Trace := ⟨ofEval⟩

/-- The chunks as one text; none is left of output that ends with a fault. -/
def text {α : Type} (t : Trace α) : Eval String := do
  discard t.result
  return String.join t.chunks

/-- A fault without output. -/
def fail {α : Type} (f : Fault) : Trace α := ofEval (.error f)

@[simp] theorem ofEval_chunks {α : Type} (e : Eval α) : (ofEval e).chunks = [] := rfl

@[simp] theorem ofEval_result {α : Type} (e : Eval α) : (ofEval e).result = e := rfl

theorem andThen_ok {α β : Type} {t : Trace α} {a : α} (f : α → Trace β) (h : t.result = .ok a) :
    t.andThen f = ⟨t.chunks ++ (f a).chunks, (f a).result⟩ := by
  simp [andThen, h]

theorem andThen_error {α β : Type} {t : Trace α} {e : Fault} (f : α → Trace β)
    (h : t.result = .error e) : t.andThen f = ⟨t.chunks, .error e⟩ := by
  simp [andThen, h]

end Trace

end RenderBench.Template
