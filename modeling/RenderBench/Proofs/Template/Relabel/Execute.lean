import RenderBench.Proofs.Template.Relabel.Evaluate
import RenderBench.Proofs.Template.Statement

/-!
# `Proofs.Template.Relabel.Execute` — statements under a relabelling

The induction over statements. A statement may change the scope of those after it, so it is first said what it
leaves alone: the blocks, unless it inherits, and the template. Then statements after one another are rendered in
scopes that mirror each other.

## Contents
- `Trace.bind_relabel`: renderings one after the other.
- `findDocument_relabel`, `runEmbedded_relabel`: other documents.
- `Follows`, `execute_follows`: what statements leave of a scope.
- `Mirror.after`, `Mirror.afterAll`: the scope of the statements after others.
- `execute_relabel`, `executeAll_relabel`: what is written, and the scope that is left.
-/

namespace RenderBench.Template

variable {α β : Type} {g : Regime} {r : Relabelling} {m m' : Machine} {s : Scope}

/-! ## Renderings one after the other -/

namespace Trace

/-- What is rendered behind a rendering is asked for only if that one ends well, with what it ends with. -/
theorem bind_relabel [Labelled α] [Labelled β] {t t' : Trace α} {f f' : α → Trace β} (ht : t' = relabel r t)
    (hf : ∀ a, t.result = .ok a → f' (relabel r a) = relabel r (f a)) : (t' >>= f') = relabel r (t >>= f) := by
  subst ht
  obtain ⟨chunks, result⟩ := t
  cases result with
  | ok a =>
    show (⟨chunks ++ (f' (relabel r a)).chunks, (f' (relabel r a)).result⟩ : Trace β) = _
    rw [hf a rfl]
    rfl
  | error e => rfl

/-- An evaluation writes nothing, and is followed by what is done with its value. -/
theorem eval_relabel [Labelled α] [Labelled β] {x x' : Eval α} {f f' : α → Trace β} (hx : x' = relabel r x)
    (hf : ∀ a, x = .ok a → f' (relabel r a) = relabel r (f a)) :
    (ofEval x' >>= f') = relabel r (ofEval x >>= f) :=
  bind_relabel (congrArg ofEval hx) hf

theorem discard_relabel [Labelled α] {t t' : Trace α} (ht : t' = relabel r t) :
    (discard t' : Trace Unit) = relabel r (discard t) :=
  bind_relabel ht fun _ _ => rfl

end Trace

/-! ## Output -/

/-- The pieces of an output. What is known beforehand is held back and written together, on both sides alike. -/
theorem writePieces_relabel (h : Mirror g r m m' s) : ∀ (ps : List Piece) (known : List String),
    g.Asks (ps.all (Piece.allowed g)) →
      writePieces m' (s.relabel r) known (ps.map (Piece.reline r.line)) = relabel r (writePieces m s known ps)
  | [], known, _ => by
    rw [List.map_nil, writePieces, writePieces]
    unfold writePieces.writeKnown
    split <;> rfl
  | .text t :: ps, known, hps => writePieces_relabel h ps (t :: known) hps
  | .value e :: ps, known, hps => by
    obtain ⟨he, hps⟩ := Regime.asks_and.mp hps
    -- which pieces are known beforehand does not depend on labels
    have hconstant : (Piece.value (e.reline r.line)).constant? (s.relabel r).escape =
        (Piece.value e).constant? s.escape :=
      congrArg (Option.map _) (constValue_reline s.escape e)
    show writePieces m' (s.relabel r) known (.value (e.reline r.line) :: ps.map _) = _
    rw [writePieces, writePieces, hconstant]
    cases (Piece.value e).constant? s.escape with
    | some t => exact writePieces_relabel h ps (t :: known) hps
    | none =>
      have hknown := writePieces_relabel h [] known Regime.asks_true
      refine Trace.bind_relabel hknown fun _ _ => ?_
      refine Trace.eval_relabel (evaluate_relabel e h he) fun v _ => ?_
      refine Trace.bind_relabel ?_ fun _ _ => writePieces_relabel h ps [] hps
      rw [relabel_value, Value.written_relabel]
      rfl

/-! ## Loops -/

/-- The elements that a condition holds of, up to the first at which it fails. -/
theorem filterElements_relabel {holds holds' : Value → Eval Bool} (failure : Option Fault) : ∀ vs : List Value,
    (∀ v ∈ vs, holds' (v.relabel r) = relabel r (holds v)) →
      filterElements holds' (relabel r failure) (relabel r vs) = relabel r (filterElements holds failure vs)
  | [], _ => rfl
  | v :: vs, hholds => by
    have hrest := filterElements_relabel failure vs fun w hw => hholds w (List.mem_cons_of_mem v hw)
    show filterElements holds' (relabel r failure) (v.relabel r :: relabel r vs) = _
    rw [filterElements, hholds v (List.mem_cons_self ..), filterElements]
    cases holds v with
    | error e => rfl
    | ok keep =>
      cases keep with
      | false => exact hrest
      | true => exact congrArg (fun rest : Elements => { rest with values := v.relabel r :: rest.values }) hrest

/-- The rounds of a loop, each with the elements before and behind it. -/
theorem runLoop_relabel {body body' : Nat → List Value → Value → List Value → Trace Unit}
    (hbody : ∀ index previous v next, Kept g previous → Kept g v → Kept g next →
      body' index (relabel r previous) (v.relabel r) (relabel r next) =
        relabel r (body index previous v next)) :
    ∀ (vs : List Value) (index : Nat) (previous : List Value), Kept g vs → Kept g previous →
      runLoop body' index (relabel r previous) (relabel r vs) = relabel r (runLoop body index previous vs)
  | [], _, _, _, _ => rfl
  | v :: vs, index, previous, hvs, hprevious => by
    obtain ⟨hv, hvs⟩ := kept_cons.mp hvs
    have hnext : Kept g (vs.take 1) := by
      show (vs.take 1).map _ = _
      rw [List.map_take]
      exact congrArg (List.take 1) hvs
    have htake : (relabel r vs).take 1 = relabel r (vs.take 1) := List.map_take.symm
    show runLoop body' index (relabel r previous) (v.relabel r :: relabel r vs) = _
    rw [runLoop, runLoop, htake]
    refine Trace.bind_relabel (hbody index previous v (vs.take 1) hprevious hv hnext) fun _ _ => ?_
    exact runLoop_relabel hbody vs (index + 1) [v] hvs (kept_cons.mpr ⟨hv, kept_nil⟩)

/-! ## Other documents -/


theorem candidateOf_relabel (v : Value) : candidateOf (v.relabel r) = (candidateOf v).relabel r := by
  have hdisplay := Value.display_relabel (r := r) v
  cases v with
  | absent a => rfl
  | _ => exact congrArg Candidate.name hdisplay

/-- A document, or another one in place of one that is missing. -/
def orNext (x next : Eval Document) : Eval Document :=
  match x with
  | .error (.templateMissing _) => next
  | x => x

/-- Which failure lets the next name be tried is told without labels. -/
theorem orNext_relabel (x next : Eval Document) :
    orNext (relabel r x) (relabel r next) = relabel r (orNext x next) := by
  cases x with
  | ok d => rfl
  | error f => cases f <;> rfl

/-- The first document of a row of names; the failure lists the candidates. -/
theorem firstDocument_relabel (hload : ∀ name, m'.load name = relabel r (m.load name)) (names vs : List Value) :
    firstDocument m' (relabel r names) (relabel r vs) = relabel r (firstDocument m names vs) := by
  induction vs with
  | nil =>
    show (.error (.templateMissing (if (relabel r names).isEmpty then _ else _)) : Eval Document) = _
    rw [relabel_list, List.isEmpty_map, firstDocument]
    cases hempty : names.isEmpty with
    | true => rfl
    | false =>
      simp only [Bool.false_eq_true, if_false, relabel_error, Fault.relabel, Missing.relabel, List.map_map,
        Function.comp_def, relabel_value, candidateOf_relabel]
  | cons v vs hrest =>
    -- a name that no document has leads on to the next one
    have hnamed (name : String) : orNext (m'.load name) (firstDocument m' (relabel r names) (relabel r vs)) =
        relabel r (orNext (m.load name) (firstDocument m names vs)) := by
      rw [hload, hrest, orNext_relabel]
    cases v with
    | absent a => exact hrest
    | text name | markup name => exact hnamed name
    | _ => rfl

/-- A value that is there names one document by its text, or several as a list. -/
theorem findDocument_of_there {v : Value} (h : v.isAbsent = false) : findDocument m v =
    v.text?.elim (listOf v >>= fun names => firstDocument m names names) m.load := by
  cases v with
  | absent a => cases h
  | _ => rfl

/-- The document that a value names is found under the same names. -/
theorem findDocument_relabel (hload : ∀ name, m'.load name = relabel r (m.load name)) (v : Value) :
    findDocument m' (v.relabel r) = relabel r (findDocument m v) := by
  cases hthere : v.isAbsent with
  | true =>
    obtain ⟨a, rfl⟩ := Value.exists_of_isAbsent hthere
    rfl
  | false =>
    rw [findDocument_of_there hthere, findDocument_of_there (by rwa [Value.isAbsent_relabel]), Value.text?_relabel]
    cases v.text? with
    | some name => exact hload name
    | none => exact bind_relabel (listOf_relabel v) fun names => firstDocument_relabel hload names names

/-- A statement that wants one name takes a text only. -/
theorem namedDocument_relabel (hload : ∀ name, m'.load name = relabel r (m.load name)) (v : Value) :
    namedDocument m' (v.relabel r) = relabel r (namedDocument m v) := by
  cases v with
  | text name | markup name => exact hload name
  | _ => rfl

/-- A document that a value names is that of some file. -/
theorem firstDocument_loaded {d : Document} {names : List Value} : ∀ {vs : List Value},
    firstDocument m names vs = .ok d → ∃ name, m.load name = .ok d
  | [], h => nomatch h
  | v :: vs, h => by
    have hnamed (name : String) (h : orNext (m.load name) (firstDocument m names vs) = .ok d) :
        ∃ name, m.load name = .ok d := by
      cases hload : m.load name with
      | ok d' =>
        rw [hload] at h
        exact ⟨name, hload.trans h⟩
      | error f =>
        rw [hload] at h
        cases f with
        -- only a missing document lets the next name be tried
        | templateMissing reason => exact firstDocument_loaded h
        | _ => cases h
    cases v with
    | absent a => exact firstDocument_loaded (show firstDocument m names vs = .ok d from h)
    | text name | markup name => exact hnamed name h
    | _ => cases h

/-- Whatever is found has been loaded under some name. -/
theorem findDocument_loaded {d : Document} {v : Value} (h : findDocument m v = .ok d) :
    ∃ name, m.load name = .ok d := by
  cases hthere : v.isAbsent with
  | true =>
    obtain ⟨a, rfl⟩ := Value.exists_of_isAbsent hthere
    cases h
  | false =>
    rw [findDocument_of_there hthere] at h
    cases htext : v.text? with
    | some name =>
      rw [htext] at h
      exact ⟨name, h⟩
    | none =>
      rw [htext] at h
      change (listOf v >>= fun names => firstDocument m names names) = .ok d at h
      cases hlist : listOf v with
      | ok names =>
        rw [hlist] at h
        exact firstDocument_loaded (show firstDocument m names names = .ok d from h)
      | error f =>
        rw [hlist] at h
        cases h

/-- What is visible in a scope that fits refers to nothing but what the regime keeps. -/
theorem Scope.kept_visible (hs : Fits g r s) : Kept g s.visible := by
  rw [Kept, ← Scope.visible_relabel, hs.kept]

/-! What a regime keeps refers to no block that is left out, so that it does not matter to it whether one is. -/

/-- The names that the regime keeps are kept by every relabelling that spares it. -/
theorem names_opened (hr : r.Spares g) {names : List String} (h : names.filter g.keeper.keeps = names) :
    names.filter r.keeps = names.filter fun _ => true := by
  have hkeeps : ∀ n ∈ names, r.keeps n = true := fun n hn =>
    (hr.covers n (List.filter_eq_self.mp h n hn)).keeps
  rw [List.filter_eq_self.mpr hkeeps, List.filter_eq_self.mpr fun _ _ => rfl]

theorem Fault.relabel_opened (f : Fault) : f.relabel r.opened = f.relabel r := rfl

mutual

/-- A value that the regime keeps is relabelled in the same way where all blocks may be referred to. -/
theorem Value.relabel_opened (hr : r.Spares g) : ∀ v : Value, Kept g v → v.relabel r.opened = v.relabel r
  | .list es, h => by
    rw [Value.relabel, Value.relabelAll_opened hr es (Value.list.inj h), Value.relabel]
  | .tuple es, h => by
    rw [Value.relabel, Value.relabelAll_opened hr es (Value.tuple.inj h), Value.relabel]
  | .dict es, h => by
    rw [Value.relabel, Value.relabelEntries_opened hr es (Value.dict.inj h), Value.relabel]
  | .lazy k es failure, h => by
    rw [Value.relabel, Value.relabelAll_opened hr es (Value.lazy.inj h).2.1, Value.relabel]
    rfl
  | .slice a b c, h => by
    obtain ⟨ha, hb, hc⟩ := Value.slice.inj h
    rw [Value.relabel, Value.relabel_opened hr a ha, Value.relabel_opened hr b hb, Value.relabel_opened hr c hc,
      Value.relabel]
  | .loop i n p q, h => by
    obtain ⟨-, -, hp, hq⟩ := Value.loop.inj h
    rw [Value.relabel, Value.relabelAll_opened hr p hp, Value.relabelAll_opened hr q hq, Value.relabel]
  | .itself t names, h => congrArg (Value.itself t) (names_opened hr (Value.itself.inj h).2).symm
  | .blockRef n l, h => by
    have hname := hr.has n (asks_of_kept_blockRef h)
    rw [Value.relabel, Value.relabel, if_pos hname.keeps]
    rfl
  | .absent _, _ | .definition _, _ | .caller _, _ | .none, _ | .bool _, _ | .int _, _ | .real _, _ | .text _, _
  | .markup _, _ | .item _, _ | .customer _, _ | .range _ _ _, _ | .foreign _, _ | .cycle _, _ | .rangeFunction, _ => rfl

theorem Value.relabelAll_opened (hr : r.Spares g) : ∀ vs : List Value, Value.relabelAll g.keeper vs = vs →
    Value.relabelAll r.opened vs = Value.relabelAll r vs
  | [], _ => rfl
  | v :: vs, h => by
    obtain ⟨hv, hvs⟩ := List.cons_eq_cons.mp h
    rw [Value.relabelAll, Value.relabel_opened hr v hv, Value.relabelAll_opened hr vs hvs, Value.relabelAll]

theorem Value.relabelEntries_opened (hr : r.Spares g) : ∀ es : List (Value × Value),
    Value.relabelEntries g.keeper es = es → Value.relabelEntries r.opened es = Value.relabelEntries r es
  | [], _ => rfl
  | (k, v) :: es, h => by
    obtain ⟨hfirst, hrest⟩ := List.cons_eq_cons.mp h
    obtain ⟨hk, hv⟩ := Prod.mk.injEq .. ▸ hfirst
    rw [Value.relabelEntries, Value.relabel_opened hr k hk, Value.relabel_opened hr v hv,
      Value.relabelEntries_opened hr es hrest, Value.relabelEntries]

end

/-- Bindings that the regime keeps are, too. -/
theorem bindings_opened (hr : r.Spares g) {names : Bindings} (h : Kept g names) :
    relabel r.opened names = relabel r names := by
  refine List.map_congr_left fun p hp => Prod.ext rfl ?_
  exact Value.relabel_opened hr p.2 (kept_prod.mp (kept_of_mem h hp)).2

/-- A rendering of which nothing is left if it fails. -/
def orNothing (t : Trace Unit) : Trace Unit :=
  match t.result with
  | .ok _ => t
  | .error f => Trace.fail f

theorem orNothing_relabel (t : Trace Unit) : orNothing (relabel r t) = relabel r (orNothing t) := by
  obtain ⟨chunks, result⟩ := t
  cases result <;> rfl

/-- Another document is rendered in a scope of its own, which is given what is visible here or nothing. -/
theorem runEmbedded_relabel (h : Mirror g r m m' s) (hloads : g.Asks g.loads) {name : String} {d : Document}
    (hd : m.load name = .ok d) (withContext : Bool) :
    runEmbedded m' (s.relabel r) withContext (d.relabel r) = relabel r (runEmbedded m s withContext d) := by
  have hrun {globals : Bindings} (hglobals : Kept g globals) :
      m'.runDocument (Scope.ofDocument (d.relabel r) (relabel r globals)) (d.relabel r) =
        relabel r (m.runDocument (Scope.ofDocument d globals) d) := by
    -- the scope of the other document refers to what the globals refer to, and to nothing else
    have hkept : (Scope.ofDocument d globals).relabel g.keeper.opened = Scope.ofDocument d globals := by
      rw [← Scope.ofDocument_relabel (fun _ => rfl), bindings_opened spares_keeper hglobals, hglobals]
      exact congrArg (Scope.ofDocument · globals) (d.reline_same g.keeper_line)
    have hscope := Scope.ofDocument_relabel (fun _ => rfl) (r := r.opened) d globals
    rw [bindings_opened h.spares hglobals] at hscope
    have hdocument : d.relabel r.opened = d.relabel r := rfl
    rw [← hdocument, hscope]
    exact h.respects.runDocument hloads hkept (h.respects.loaded hloads hd)
  cases withContext with
  | true =>
    have hvisible := hrun (Scope.kept_visible h.fits)
    rw [← Scope.visible_relabel] at hvisible
    exact hvisible
  | false =>
    show orNothing (m'.runDocument _ _) = relabel r (orNothing (m.runDocument _ _))
    -- without context the other document sees nothing but the function that all documents have
    have hrange : Kept g ([("range", .rangeFunction)] : Bindings) := rfl
    have halone := hrun hrange
    rw [← orNothing_relabel, ← halone]
    rfl

/-! ## What statements leave -/

namespace Trace

/-- Whatever a rendering ends well with has a property. -/
def Ends (t : Trace α) (P : α → Prop) : Prop := ∀ a, t.result = .ok a → P a

variable {P : β → Prop}

theorem ends_pure {b : β} (h : P b) : (pure b : Trace β).Ends P := by
  intro b' hb
  cases hb
  exact h

/-- The rule for renderings one after the other. -/
theorem Ends.bind {Q : α → Prop} {t : Trace α} {f : α → Trace β} (ht : t.Ends Q) (hf : ∀ a, Q a → (f a).Ends P) :
    (t >>= f).Ends P := by
  intro b hb
  change (t.andThen f).result = .ok b at hb
  cases hresult : t.result with
  | ok a =>
    rw [andThen_ok f hresult] at hb
    exact hf a (ht a hresult) b hb
  | error e =>
    rw [andThen_error f hresult] at hb
    cases hb

theorem ends_bind {t : Trace α} {f : α → Trace β} (h : ∀ a, (f a).Ends P) : (t >>= f).Ends P :=
  Ends.bind (Q := fun _ => True) (fun _ _ => trivial) fun a _ => h a

end Trace

open Trace

/-- What statements may change in the scope of those after them: the blocks only by inheritance, and the template
    and the block that is rendered never. -/
structure Follows (s s' : Scope) (stays : Bool) : Prop where
  template : s'.template = s.template
  current : s'.current = s.current
  blocks : stays = true → s'.blocks = s.blocks

namespace Follows

variable {s s' s'' : Scope} {stays stays' : Bool}

theorem same : Follows s s stays := ⟨rfl, rfl, fun _ => rfl⟩

theorem mono (h : Follows s s' stays) (hstays : stays' = true → stays = true) : Follows s s' stays' :=
  ⟨h.template, h.current, fun hs => h.blocks (hstays hs)⟩

theorem trans (h : Follows s s' stays) (h' : Follows s' s'' stays') : Follows s s'' (stays && stays') where
  template := h'.template.trans h.template
  current := h'.current.trans h.current
  blocks hboth := by
    obtain ⟨hs, hs'⟩ := Bool.and_eq_true_iff.mp hboth
    rw [h'.blocks hs', h.blocks hs]

end Follows

mutual

/-- One case for each kind of statement: inheritance is the only one that changes the blocks, and no regime allows it.
    -/
theorem execute_follows (g : Regime) : ∀ (st : Stmt) (s : Scope),
    (execute m s st).Ends fun s' => Follows s s' (st.allowed g)
  | .output _, s => by
    rw [execute_output]
    exact ends_bind fun _ => ends_pure .same
  | .forLoop .., s => by
    rw [execute_forLoop]
    exact ends_bind fun _ => ends_bind fun _ => ends_bind fun _ => ends_pure .same
  | .branch test body otherwise, s => by
    rw [execute]
    refine ends_bind fun v => ?_
    split
    · intro s' h
      refine (executeAll_follows g body s s' h).mono fun hallowed => ?_
      exact (Bool.and_eq_true_iff.mp (Bool.and_eq_true_iff.mp hallowed).2).1
    · intro s' h
      refine (executeAll_follows g otherwise s s' h).mono fun hallowed => ?_
      exact (Bool.and_eq_true_iff.mp (Bool.and_eq_true_iff.mp hallowed).2).2
  | .assign .., s => by
    rw [execute_assign]
    exact ends_bind fun _ => ends_bind fun _ => ends_bind fun _ => ends_pure ⟨rfl, rfl, fun _ => rfl⟩
  | .capture .., s => by
    rw [execute_capture]
    exact ends_bind fun _ => ends_bind fun _ => ends_pure ⟨rfl, rfl, fun _ => rfl⟩
  | .scope .., s => by
    rw [execute]
    exact ends_bind fun _ => ends_bind fun _ => ends_bind fun _ => ends_pure .same
  | .block .., s => by
    rw [execute_block]
    exact ends_bind fun _ => ends_pure .same
  | .inherit .., s => by
    rw [execute_inherit]
    exact ends_bind fun _ => ends_bind fun _ => ends_bind fun _ => ends_pure ⟨rfl, rfl, nofun⟩
  | .embed .., s => by
    rw [execute_embed]
    exact ends_bind fun _ => ends_bind fun _ => ends_pure .same
  | .definition .., s => by
    rw [execute]
    exact ends_pure ⟨rfl, rfl, fun _ => rfl⟩
  | .callBlock .., s => by
    rw [execute_callBlock]
    exact ends_bind fun _ => ends_bind fun _ => ends_pure .same
  | .filterBlock .., s => by
    rw [execute]
    exact ends_bind fun _ => ends_bind fun _ => ends_bind fun _ => ends_bind fun _ => ends_pure .same
  | .escaping .., s => by
    rw [execute]
    exact ends_bind fun _ => ends_bind fun _ => ends_pure .same
  | .importing .., s => by
    rw [execute]
    exact ends_bind fun _ => ends_bind fun _ => ends_pure ⟨rfl, rfl, fun _ => rfl⟩

/-- A row of statements changes no more than its statements do. -/
theorem executeAll_follows (g : Regime) : ∀ (ss : List Stmt) (s : Scope),
    (executeAll m s ss).Ends fun s' => Follows s s' (Stmt.allAllowed g ss)
  | [], s => ends_pure .same
  | st :: ss, s => by
    rw [executeAll]
    refine Ends.bind (execute_follows g st s) fun s' hfirst => ?_
    intro s'' hrest
    exact hfirst.trans (executeAll_follows g ss s' s'' hrest)

end

/-! ## Mirrored scopes -/

namespace Mirror

variable (h : Mirror g r m m' s)

include h

/-- A statement in a scope that fits is rendered alike under the relabelling of the regime. -/
theorem execute_own (st : Stmt) : execute m (s.relabel g.keeper) (st.reline g.keeper.line) = execute m s st := by
  rw [h.fits.kept, Stmt.reline_same g.keeper_line]

theorem executeAll_own (ss : List Stmt) :
    executeAll m (s.relabel g.keeper) (Stmt.relineAll g.keeper.line ss) = executeAll m s ss := by
  rw [h.fits.kept, Stmt.relineAll_same g.keeper_line]

/-- A change of the scope that goes along with relabelling, and leaves the blocks and the template, keeps the mirror.
    -/
theorem of_step {f : Scope → Scope} (hf : f (s.relabel g.keeper) = (f s).relabel g.keeper)
    (hblocks : (f s).blocks = s.blocks) (htemplate : (f s).template = s.template)
    (hcurrent : (f s).current = s.current) : Mirror g r m m' (f s) :=
  ⟨h.spares, h.kept, h.respects, h.fits.of_step hf hblocks htemplate fun name level hc =>
    h.fits.current name level (hcurrent ▸ hc)⟩

theorem keptBody : Mirror g r m m' s.kept :=
  h.of_step (f := Scope.kept) (Scope.kept_relabel s) rfl rfl rfl

/-- Statements after others that the regime allows. -/
theorem follows {s' : Scope} {stays : Bool} (hs : Follows s s' stays) (hstays : g.Asks stays) (hkept : Kept g s') :
    Mirror g r m m' s' where
  spares := h.spares
  kept := h.kept
  respects := h.respects
  fits :=
    { kept := hkept
      blocks := fun n hn b hb hown => by
        rw [Scope.sources, hs.blocks (hstays hown)] at hb
        exact h.fits.blocks n hn b hb hown
      current := fun name level hc => h.fits.current name level (hs.current ▸ hc)
      title := fun hown => hs.template ▸ h.fits.title hown }

/-- Statements after one that the regime's own relabelling commutes with. -/
theorem after {st : Stmt} {s' : Scope} (hst : g.Asks (st.allowed g))
    (hown : execute m (s.relabel g.keeper) (st.reline g.keeper.line) = relabel g.keeper (execute m s st))
    (hs' : (execute m s st).result = .ok s') : Mirror g r m m' s' :=
  h.follows (execute_follows g st s s' hs') hst
    (kept_of_ok (congrArg Trace.result (h.execute_own st)) (congrArg Trace.result hown) hs')

/-- Statements after a row of them. -/
theorem afterAll {ss : List Stmt} {s' : Scope} (hss : g.Asks (Stmt.allAllowed g ss))
    (hown : executeAll m (s.relabel g.keeper) (Stmt.relineAll g.keeper.line ss) =
      relabel g.keeper (executeAll m s ss))
    (hs' : (executeAll m s ss).result = .ok s') : Mirror g r m m' s' :=
  h.follows (executeAll_follows g ss s s' hs') hss
    (kept_of_ok (congrArg Trace.result (h.executeAll_own ss)) (congrArg Trace.result hown) hs')

end Mirror

/-- The names that a target binds refer to what its value refers to. -/
theorem kept_bindTarget {t : Target} {v : Value} {names : Bindings} (hv : Kept g v) (h : bindTarget t v = .ok names) :
    Kept g names := by
  have hnames := bindTarget_relabel (r := g.keeper) (f := g.keeper.line) t v
  have hv' : v.relabel g.keeper = v := hv
  rw [hv', t.reline_same g.keeper_line, h] at hnames
  exact kept_ok.mp hnames.symm

/-- So do the elements that a loop goes over. -/
theorem kept_elementsOf {v : Value} {e : Elements} (hv : Kept g v) (h : elementsOf v = .ok e) : Kept g e := by
  have helements := elementsOf_relabel (r := g.keeper) v
  have hv' : v.relabel g.keeper = v := hv
  rw [hv', h] at helements
  exact kept_ok.mp helements.symm

theorem kept_bindTargets {ts : List Target} {vs : List Value} {names : Bindings} (hvs : Kept g vs)
    (h : bindTargets ts vs = .ok names) : Kept g names := by
  have hnames := bindTargets_relabel (r := g.keeper) (f := g.keeper.line) ts vs
  have hvs' : vs.map (Value.relabel g.keeper) = vs := hvs
  rw [hvs', Target.relineAll_same g.keeper_line, h] at hnames
  exact kept_ok.mp hnames.symm

/-! ## Statements step by step -/

theorem Trace.ite_relabel [Labelled α] {c c' : Bool} {t t' u u' : Trace α} (hc : c' = c) (ht : t' = relabel r t)
    (hu : u' = relabel r u) : (if c' then t' else u') = relabel r (if c then t else u) := by
  subst hc ht hu
  cases c' <;> rfl

/-- Whether a loop keeps count is told by the names in its body. -/
theorem isStateful_reline {f : Nat → Nat} (recursive : Bool) (body otherwise : List Stmt) :
    isStateful recursive (Stmt.relineAll f body) (Stmt.relineAll f otherwise) = isStateful recursive body otherwise := by
  rw [isStateful, Stmt.anyMentions_reline, Stmt.anyLocalBlock_reline, Stmt.anyLocalBlock_reline, isStateful]

/-- The elements that the condition of a loop lets through. -/
theorem chosenElements_relabel (h : Mirror g r m m' s) (target : Target) {condition : Option Expr}
    (hcondition : g.Asks (condition.all (Expr.allowed g))) {e : Elements} (he : Kept g e) :
    chosenElements m' (s.relabel r) (target.reline r.line) (condition.map (Expr.reline r.line)) (relabel r e) =
      relabel r (chosenElements m s target condition e) := by
  cases condition with
  | none => rfl
  | some c =>
    refine filterElements_relabel e.failure e.values fun v hv => ?_
    have hkept : Kept g v := kept_of_mem (congrArg Elements.values he) hv
    refine bind_relabel_of_ok (bindTarget_relabel target v) fun names hnames => ?_
    have hinside := h.inside (kept_bindTarget hkept hnames)
    rw [Scope.inside_relabel]
    exact bind_relabel (evaluate_relabel c hinside hcondition) fun w => congrArg Except.ok (Value.isTruthy_relabel w)

/-- The names that a round binds: those of the target, and the loop itself if it keeps count. -/
theorem loopNames_relabel (stateful : Bool) (index length : Nat) (previous next : List Value) (names : Bindings) :
    loopNames stateful index length (relabel r previous) (relabel r next) (relabel r names) =
      relabel r (loopNames stateful index length previous next names) := by
  cases stateful with
  | false => rfl
  | true =>
    show List.map _ names ++ _ = List.map _ (names ++ _)
    rw [List.map_append]
    simp [Value.relabel]

theorem kept_loopNames {stateful : Bool} {index length : Nat} {previous next : List Value} {names : Bindings}
    (hprevious : Kept g previous) (hnext : Kept g next) (hnames : Kept g names) :
    Kept g (loopNames stateful index length previous next names) := by
  rw [Kept, ← loopNames_relabel, hprevious, hnext, hnames]

/-- A whole loop: its rounds, the failure that its elements end with, and what is rendered for none. -/
theorem loopOver_relabel {f : Nat → Nat} (target : Target) (stateful : Bool) {body otherwise : List Stmt}
    (hbody : ∀ names, Kept g names →
      executeAll m' ((s.inside names).relabel r) (Stmt.relineAll f body) = relabel r (executeAll m (s.inside names) body))
    (hotherwise : executeAll m' ((s.inside []).relabel r) (Stmt.relineAll f otherwise) =
      relabel r (executeAll m (s.inside []) otherwise))
    {e : Elements} (he : Kept g e) :
    loopOver m' (s.relabel r) (target.reline f) stateful (Stmt.relineAll f body) (Stmt.relineAll f otherwise)
        (relabel r e) =
      relabel r (loopOver m s target stateful body otherwise e) := by
  obtain ⟨values, failure⟩ := e
  have hvalues : Kept g values := congrArg Elements.values he
  have hlength : (relabel r values).length = values.length := List.length_map ..
  -- one round, with the names of the loop bound inside
  have hstep : ∀ index previous v next, Kept g previous → Kept g v → Kept g next →
      loopStep m' (s.relabel r) (target.reline f) stateful (Stmt.relineAll f body) values.length index (relabel r previous) (v.relabel r)
          (relabel r next) =
        relabel r (loopStep m s target stateful body values.length index previous v next) := by
    intro index previous v next hprevious hv hnext
    refine Trace.eval_relabel (bindTarget_relabel target v) fun names hnames => ?_
    rw [loopNames_relabel, Scope.inside_relabel]
    exact Trace.discard_relabel (hbody _ (kept_loopNames hprevious hnext (kept_bindTarget hv hnames)))
  show (runLoop (loopStep m' (s.relabel r) (target.reline f) stateful (Stmt.relineAll f body) (relabel r values).length) 0 [] (relabel r values) >>=
    fun _ => (relabel r failure).elim (pure ()) Trace.fail >>= fun _ =>
      if (relabel r values).isEmpty then discard (executeAll m' ((s.relabel r).inside []) (Stmt.relineAll f otherwise)) else pure ()) = _
  rw [hlength]
  refine Trace.bind_relabel (runLoop_relabel hstep values 0 [] hvalues kept_nil) fun _ _ => ?_
  refine Trace.bind_relabel ?_ fun _ _ => ?_
  · cases failure <;> rfl
  · exact Trace.ite_relabel List.isEmpty_map (Trace.discard_relabel hotherwise) rfl

/-- A filter on text that has been rendered; the text is captured in the scope. -/
theorem filterText_relabel (h : Mirror g r m m' s) {filter : Expr} (hfilter : g.Asks (filter.allowed g)) (t : String) :
    filterText m' (s.relabel r) (filter.reline r.line) t = relabel r (filterText m s filter t) := by
  have hcaptured (r : Relabelling) : { s.relabel r with captured := Value.ofText s.escape t } =
      ({ s with captured := Value.ofText s.escape t } : Scope).relabel r := by
    simp only [Scope.relabel, Value.relabel_ofText]
  have hs := h.of_step (f := fun s => { s with captured := Value.ofText s.escape t }) (hcaptured g.keeper) rfl rfl rfl
  have heval := evaluate_relabel filter hs hfilter
  rw [← hcaptured r] at heval
  exact heval

/-- What is assigned of a rendered body, with its filter in the scope that the body leaves. -/
theorem capturedValue_relabel {filter : Option Expr} (hfilter : g.Asks (filter.all (Expr.allowed g)))
    {t : Trace Scope} (hinner : ∀ inner, t.result = .ok inner → Mirror g r m m' inner) :
    capturedValue m' (s.relabel r) (filter.map (Expr.reline r.line)) (relabel r t) = relabel r (capturedValue m s filter t) := by
  refine bind_relabel_of_ok (x := t.result) rfl fun inner h => ?_
  cases filter with
  | none => exact congrArg Except.ok (Scope.relabel_composed s _).symm
  | some f =>
    refine bind_relabel (filterText_relabel (hinner inner h) hfilter _) fun v => congrArg Except.ok ?_
    show (if s.markup then .markup (v.relabel r).display else v.relabel r) =
      (if s.markup then .markup v.display else v : Value).relabel r
    rw [Value.display_relabel]
    split <;> rfl

/-- A block in its place. It is the last of those of its name, in a scope that sees what is around it or the globals.
    -/
theorem blockOutput_relabel (h : Mirror g r m m' s) {name : String} (hname : g.Asks (g.reach name))
    (withLocals required : Bool) :
    blockOutput m' (s.relabel r) name withLocals required = relabel r (blockOutput m s name withLocals required) := by
  have hparent : (s.relabel r).parent.isSome = s.parent.isSome := Option.isSome_map
  have htop : (s.relabel r).top = s.top := rfl
  -- the block sees what is visible here or what the document was given, both of which are kept
  have hglobals : Kept g (if withLocals then s.visible else s.globals) := by
    split
    · exact Scope.kept_visible h.fits
    · exact congrArg Scope.globals h.fits.kept
  have hglobals' : (if withLocals then (s.relabel r).visible else (s.relabel r).globals) =
      relabel r (if withLocals then s.visible else s.globals) := by
    rw [Scope.visible_relabel]
    split <;> rfl
  unfold blockOutput
  rw [hparent, htop, hglobals', Scope.sources_relabel s (h.spares.has name hname).shows]
  refine Trace.ite_relabel rfl rfl ?_
  cases hsources : s.sources name with
  | nil => rfl
  | cons b bs =>
    have hb : b ∈ s.sources name := hsources ▸ List.mem_cons_self ..
    refine Trace.ite_relabel ?_ rfl (Trace.discard_relabel ?_)
    · show (required && (bs.map (BlockSource.relabel r)).isEmpty) = (required && bs.isEmpty)
      rw [List.isEmpty_map]
    · have hallowed := h.fits.blocks name hname b hb
      rw [Scope.forBlock_relabel]
      exact h.respects.run (h.fits.forBlock _ hglobals hallowed) (Regime.asks_and.mp hallowed).2

/-- An inclusion, which may let a missing document pass. -/
theorem embedded_relabel (h : Mirror g r m m' s) (hloads : g.Asks g.loads) (ignoreMissing withContext : Bool)
    {x : Eval Document} (hx : ∀ d, x = .ok d → ∃ name, m.load name = .ok d) :
    embedded m' (s.relabel r) ignoreMissing withContext (relabel r x) =
      relabel r (embedded m s ignoreMissing withContext x) := by
  cases x with
  | ok d =>
    obtain ⟨name, hd⟩ := hx d rfl
    exact runEmbedded_relabel h hloads hd withContext
  | error f =>
    cases f with
    | templateMissing reason => cases ignoreMissing <;> rfl
    | _ => rfl

/-- A call with a body: the macro is given one more argument, which renders it. -/
theorem calledValue_relabel (h : Mirror g r m m' s) {call : Expr} (hcall : g.Asks (call.allowed g)) {caller : Value}
    (hcaller : Kept g caller) :
    calledValue m' (s.relabel r) (call.reline r.line) (caller.relabel r) = relabel r (calledValue m s call caller) := by
  cases call with
  | call f args names values =>
    obtain ⟨hf, hrest⟩ := Regime.asks_and.mp hcall
    obtain ⟨hargs, hvalues⟩ := Regime.asks_and.mp hrest
    refine bind_relabel_of_ok (evaluate_relabel f h hf) fun v hv => ?_
    refine bind_relabel_of_ok (givenArguments_relabel names (evaluateArgs_relabel args h hargs)
      (evaluateEach_relabel values h hvalues)) fun c hc => ?_
    -- the same arguments for the regime itself: this is what keeps them
    have hown := givenArguments_relabel names (evaluateArgs_relabel args h.own hargs)
      (evaluateEach_relabel values h.own hvalues)
    have hkeptv := kept_of_ok (h.evaluate_own f) (evaluate_relabel f h.own hf) hv
    have hkeptc := kept_of_ok (h.givenArguments_own args names values) hown hc
    have hwith (r : Relabelling) : (⟨(relabel r c).args, (relabel r c).named ++ [("caller", caller.relabel r)]⟩ :
        CallValues) = relabel r ⟨c.args, c.named ++ [("caller", caller)]⟩ := by
      simp only [relabel, List.map_append]
      rfl
    have hkept : Kept g (⟨c.args, c.named ++ [("caller", caller)]⟩ : CallValues) := by
      have hcaller' : caller.relabel g.keeper = caller := hcaller
      rw [Kept, ← hwith, hkeptc, hcaller']
    refine bind_relabel ?_ fun w => rfl
    rw [hwith]
    exact callValue_relabel h.spares h.kept h.respects h.fits hkeptv hkept
  | _ => rfl

theorem caller_relabel (t : Trace α) [Labelled α] :
    Value.caller (relabel r t).text = (Value.caller t.text).relabel r := by
  rw [text_relabel, Value.relabel]
  cases t.text <;> rfl

theorem textOf_relabel (v : Value) : textOf (v.relabel r) = relabel r (textOf v) := by
  rw [textOf, textOf, Value.text?_relabel, Value.kind_relabel]
  cases v.text? <;> rfl

/-- The text of a value, written. -/
theorem writeText_relabel (v : Value) :
    (Trace.ofEval (textOf (v.relabel r)) >>= Trace.write) = relabel r (Trace.ofEval (textOf v) >>= Trace.write) :=
  Trace.eval_relabel (textOf_relabel v) fun _ _ => rfl

/-! ## Statements

What most statements do is one of few things: they evaluate and go on with the value, they bind the names of a target,
or they leave the scope as it is. -/

/-- A statement that leaves its scope as it is. -/
theorem Trace.leaving_relabel {t t' : Trace Unit} (ht : t' = relabel r t) :
    (t' >>= fun _ => pure (s.relabel r)) = relabel r (t >>= fun _ => pure s) :=
  Trace.bind_relabel ht fun _ _ => rfl

/-- The names of a target, bound in the scope of the statements behind. -/
theorem bound_relabel {f : Nat → Nat} (target : Target) (v : Value) :
    (Trace.ofEval (bindTarget (target.reline f) (v.relabel r)) >>= fun names => pure ((s.relabel r).bind names)) =
      relabel r (Trace.ofEval (bindTarget target v) >>= fun names => pure (s.bind names)) := by
  refine Trace.eval_relabel (bindTarget_relabel target v) fun names _ => ?_
  rw [Scope.bind_relabel]
  rfl

namespace Mirror

variable (h : Mirror g r m m' s)

include h

/-- A statement that evaluates an expression and goes on with the value. -/
theorem evaluated [Labelled α] {e : Expr} (he : g.Asks (e.allowed g)) {f f' : Value → Trace α}
    (hf : ∀ v, Kept g v → f' (v.relabel r) = relabel r (f v)) :
    (Trace.ofEval (evaluate m' (s.relabel r) (e.reline r.line)) >>= f') =
      relabel r (Trace.ofEval (evaluate m s e) >>= f) :=
  Trace.eval_relabel (evaluate_relabel e h he) fun v hv =>
    hf v (kept_of_ok (h.evaluate_own e) (evaluate_relabel e h.own he) hv)

/-- One that evaluates a row of them. -/
theorem evaluatedAll [Labelled α] {es : List Expr} (hes : g.Asks (Expr.allAllowed g es)) {f f' : List Value → Trace α}
    (hf : ∀ vs, Kept g vs → f' (relabel r vs) = relabel r (f vs)) :
    (Trace.ofEval (allValues (evaluateEach m' (s.relabel r) (Expr.relineAll r.line es))) >>= f') =
      relabel r (Trace.ofEval (allValues (evaluateEach m s es)) >>= f) := by
  rw [evaluateEach_relabel es h hes, allValues_relabel]
  refine Trace.eval_relabel rfl fun vs hvs => hf vs (kept_of_ok (congrArg allValues (h.evaluateEach_own es)) ?_ hvs)
  rw [evaluateEach_relabel es h.own hes, allValues_relabel]

/-- The elements that a loop goes over refer to nothing but what the regime keeps. -/
theorem kept_chosenElements (target : Target) {condition : Option Expr}
    (hcondition : g.Asks (condition.all (Expr.allowed g))) {e : Elements} (he : Kept g e) :
    Kept g (chosenElements m s target condition e) := by
  have hchosen := chosenElements_relabel h.own target hcondition he
  rw [h.fits.kept, he, Target.reline_same g.keeper_line, Expr.relineOption_same g.keeper_line] at hchosen
  exact hchosen.symm

/-- So does what is rendered for the caller of a macro. -/
theorem kept_caller {body : List Stmt} (hbody : executeAll m (s.relabel g.keeper) (Stmt.relineAll g.keeper.line body) =
    relabel g.keeper (executeAll m s body)) : Kept g (Value.caller (executeAll m s body).text) := by
  rw [h.executeAll_own] at hbody
  show Value.relabel _ _ = _
  rw [← caller_relabel, ← hbody]

/-- A definition is bound with the lines of its body. -/
theorem definition_relabel {name : String} {params : List String} {defaults : List Expr} {body : List Stmt}
    (hst : g.Asks (Stmt.allowed g (.definition name params defaults body))) :
    execute m' (s.relabel r) ((Stmt.definition name params defaults body).reline r.line) =
      relabel r (execute m s (.definition name params defaults body)) := by
  have hlength : (s.relabel r).frames.length = s.frames.length := List.length_map ..
  let d : Definition := ⟨name, params, defaults, body, s.frames.length, s.escape⟩
  have hnames : [(name, Value.definition (d.reline r.line))] = relabel r [(name, Value.definition d)] :=
    congrArg (fun d => [(name, Value.definition d)]) (h.spares.definition d hst).symm
  rw [Stmt.reline, execute, execute, hlength]
  refine congrArg pure ?_
  rw [relabel_scope, ← Scope.bind_relabel, ← hnames]
  rfl

/-- A document inherits from one that is found, and only where the regime does not ask. -/
theorem inherit_relabel {line : Nat} {parent : Expr} (hst : g.Asks (Stmt.allowed g (.inherit line parent))) :
    execute m' (s.relabel r) ((Stmt.inherit line parent).reline r.line) =
      relabel r (execute m s (.inherit line parent)) := by
  have hparent : (s.relabel r).parent.isSome = s.parent.isSome := Option.isSome_map
  have hany (b : Bool) : g.Asks b := fun hown => nomatch hst hown
  have hshows (n : String) : r.shows n = true := (h.spares.has n (hany _)).shows
  rw [Stmt.reline, execute_inherit, execute_inherit]
  refine Trace.bind_relabel (Trace.ite_relabel hparent rfl rfl) fun _ _ => ?_
  refine h.evaluated (hany _) fun v _ => ?_
  refine Trace.eval_relabel (namedDocument_relabel (h.respects.load (hany _)) v) fun d _ => ?_
  rw [relabel_document, Scope.inheritFrom_relabel s hshows]
  rfl

end Mirror

mutual

/-- **A statement under a relabelling.** It writes what it writes and leaves the scope that it leaves, relabelled. -/
theorem execute_relabel : ∀ (st : Stmt) {s : Scope} {r : Relabelling} {m' : Machine}, Mirror g r m m' s →
    g.Asks (st.allowed g) → execute m' (s.relabel r) (st.reline r.line) = relabel r (execute m s st)
  | .output pieces, s, r, _, h, hst => by
    have hparent : (s.relabel r).parent.isNone = s.parent.isNone := Option.isNone_map
    rw [Stmt.reline, execute_output, execute_output]
    exact Trace.leaving_relabel (Trace.ite_relabel hparent (writePieces_relabel h pieces [] hst) rfl)
  | .forLoop target source condition recursive body otherwise, s, _, _, h, hst => by
    obtain ⟨hsource, hrest⟩ := Regime.asks_and.mp hst
    obtain ⟨hcondition, hbodies⟩ := Regime.asks_and.mp hrest
    obtain ⟨hbody, hotherwise⟩ := Regime.asks_and.mp hbodies
    rw [Stmt.reline, execute_forLoop, execute_forLoop, isStateful_reline]
    refine h.evaluated hsource fun v hv => ?_
    -- the values of the loop are kept, so that its names can be bound
    refine Trace.eval_relabel (elementsOf_relabel v) fun e he => ?_
    have hkept : Kept g e := kept_elementsOf hv he
    rw [chosenElements_relabel h target hcondition hkept]
    refine Trace.leaving_relabel (loopOver_relabel target _ (fun names hnames => ?_) ?_
      (h.kept_chosenElements target hcondition hkept))
    · exact executeAll_relabel body (h.inside hnames) hbody
    · exact executeAll_relabel otherwise (h.inside kept_nil) hotherwise
  | .branch test body otherwise, _, _, _, h, hst => by
    obtain ⟨htest, hbodies⟩ := Regime.asks_and.mp hst
    obtain ⟨hbody, hotherwise⟩ := Regime.asks_and.mp hbodies
    exact h.evaluated htest fun v _ => Trace.ite_relabel (Value.isTruthy_relabel v) (executeAll_relabel body h hbody)
      (executeAll_relabel otherwise h hotherwise)
  | .assign target value, s, _, _, h, hst => by
    rw [Stmt.reline, execute_assign, execute_assign]
    refine Trace.bind_relabel (Trace.ite_relabel target.hasMember_reline rfl rfl) fun _ _ => ?_
    exact h.evaluated hst fun v _ => bound_relabel target v
  | .capture target filter body, s, _, _, h, hst => by
    obtain ⟨hfilter, hbody⟩ := Regime.asks_and.mp hst
    rw [Stmt.reline, execute_capture, execute_capture, Scope.kept_relabel, executeAll_relabel body h.keptBody hbody]
    refine Trace.eval_relabel (capturedValue_relabel hfilter fun inner hinner => ?_) fun v _ => bound_relabel target v
    exact h.keptBody.afterAll hbody (executeAll_relabel body h.keptBody.own hbody) hinner
  | .scope targets values body, s, _, _, h, hst => by
    obtain ⟨hvalues, hbody⟩ := Regime.asks_and.mp hst
    rw [Stmt.reline, execute, execute]
    refine h.evaluatedAll hvalues fun vs hvs => ?_
    refine Trace.eval_relabel (bindTargets_relabel targets vs) fun names hnames => ?_
    rw [Scope.inside_relabel]
    exact Trace.leaving_relabel (Trace.discard_relabel
      (executeAll_relabel body (h.inside (kept_bindTargets hvs hnames)) hbody))
  | .block line name withLocals required body, _, _, _, h, hname => by
    rw [Stmt.reline, execute_block, execute_block]
    exact Trace.leaving_relabel (blockOutput_relabel h hname withLocals required)
  | .inherit .., _, _, _, h, hst => h.inherit_relabel hst
  | .embed source ignoreMissing withContext, s, _, _, h, hst => by
    obtain ⟨hloads, hsource⟩ := Regime.asks_and.mp hst
    rw [Stmt.reline, execute_embed, execute_embed]
    refine h.evaluated hsource fun v _ => Trace.leaving_relabel ?_
    rw [findDocument_relabel (h.respects.load hloads)]
    exact embedded_relabel h hloads ignoreMissing withContext fun d hd => findDocument_loaded hd
  | .definition .., _, _, _, h, hst => h.definition_relabel hst
  | .callBlock params defaults call body, s, _, _, h, hst => by
    obtain ⟨hcall, hbody⟩ := Regime.asks_and.mp hst
    have hcaller := h.keptBody.kept_caller (executeAll_relabel body h.keptBody.own hbody)
    rw [Stmt.reline, execute_callBlock, execute_callBlock, Scope.kept_relabel, executeAll_relabel body h.keptBody hbody,
      caller_relabel]
    refine Trace.eval_relabel (calledValue_relabel h hcall hcaller) fun v _ => Trace.leaving_relabel ?_
    cases v with
    | none => rfl
    | some v => exact writeText_relabel v
  | .filterBlock filter body, s, r, _, h, hst => by
    obtain ⟨hfilter, hbody⟩ := Regime.asks_and.mp hst
    have hinside := h.inside (show Kept g ([] : Bindings) from kept_nil)
    have hscope : (s.relabel r).inside [] = (s.inside []).relabel r := Scope.inside_relabel s []
    rw [Stmt.reline, execute, execute, hscope, executeAll_relabel body hinside hbody]
    refine Trace.eval_relabel (x := (executeAll m (s.inside []) body).result) rfl fun inner hinner => ?_
    have hafter := hinside.afterAll hbody (executeAll_relabel body hinside.own hbody) hinner
    refine Trace.eval_relabel (filterText_relabel hafter hfilter _) fun v _ => ?_
    exact Trace.eval_relabel (textOf_relabel v) fun text _ => Trace.leaving_relabel (t := Trace.write text) rfl
  | .escaping value body, s, _, _, h, hst => by
    obtain ⟨hvalue, hbody⟩ := Regime.asks_and.mp hst
    refine h.evaluated hvalue fun v _ => Trace.leaving_relabel (Trace.discard_relabel ?_)
    rw [Value.isTruthy_relabel]
    have hs := h.of_step (f := fun s => { s.inside [] with escape := v.isTruthy, markup := v.isTruthy }) rfl rfl rfl rfl
    exact executeAll_relabel body hs hbody
  | .importing source names, s, r, _, h, hst => by
    obtain ⟨hloads, hsource⟩ := Regime.asks_and.mp hst
    refine h.evaluated hsource fun v _ => ?_
    have hdocument := congrArg Trace.ofEval (namedDocument_relabel (r := r) (h.respects.load hloads) v)
    refine Trace.bind_relabel (Trace.discard_relabel hdocument) fun _ _ => ?_
    have hnames : relabel r (names.map fun n => (n, Value.absent (.name n))) =
        names.map fun n => (n, Value.absent (.name n)) := List.map_map
    rw [Scope.bind_relabel_self s hnames]
    rfl

/-- Statements one after the other; the scope that one leaves mirrors the other one's. -/
theorem executeAll_relabel : ∀ (ss : List Stmt) {s : Scope} {r : Relabelling} {m' : Machine}, Mirror g r m m' s →
    g.Asks (Stmt.allAllowed g ss) →
      executeAll m' (s.relabel r) (Stmt.relineAll r.line ss) = relabel r (executeAll m s ss)
  | [], _, _, _, _, _ => rfl
  | st :: ss, s, _, _, h, hss => by
    obtain ⟨hst, hss⟩ := Regime.asks_and.mp hss
    rw [Stmt.relineAll, executeAll, executeAll]
    refine Trace.bind_relabel (execute_relabel st h hst) fun s' hs' => ?_
    exact executeAll_relabel ss (h.after hst (execute_relabel st h.own hst) hs') hss

end

end RenderBench.Template
