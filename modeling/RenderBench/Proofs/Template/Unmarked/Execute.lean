import RenderBench.Proofs.Template.Relabel.Machine
import RenderBench.Proofs.Template.Unmarked.Evaluate

/-!
# `Proofs.Template.Unmarked.Execute` — statements in all modes

What is rendered in all modes is made of the same parts: text of the document, which is what the mode makes of it, what
output expressions write, which is escaped in one mode and plain in another, and what other documents write, which no
mode changes. The induction is over statements, and over the depth of calls for the blocks.

## Contents
- `Part`, `chunkText`: parts of what is written.
- `Uniform`: renderings in all modes that write the same parts and end in the same way.
- `Uniform.bind`, `uniform_ofEval`, `uniform_runLoop`: renderings one after the other.
- `Scope.Renders`, `MachinesAgree`: scopes of such statements, and machines.
- `execute_uniform`, `executeAll_uniform`: statements.
- `machinesAgree`, `renderPart_uniform`: parts of blocks by themselves.
-/

namespace RenderBench.Template

variable {α β γ δ : Type} {embeds : Bool}

/-! ## Parts -/

/-- A part of what is written. -/
inductive Part where
  /-- Text that stands in the document. -/
  | literal (s : String)
  /-- What an output expression writes. -/
  | output (s : String)
  /-- What another document writes. -/
  | foreign (s : String)

def Part.isForeign : Part → Bool
  | .foreign _ => true
  | _ => false

/-- What a part is in a mode. -/
def Part.text (μ : Mode) : Part → String
  | .literal s => μ.literal s
  | .output s => if μ.escape then escapeText s else s
  | .foreign s => s

/-- A chunk of several parts. -/
def chunkText (μ : Mode) (parts : List Part) : String := String.join (parts.map (Part.text μ))

/-- Chunks that are from other documents only if there may be some. -/
abbrev OwnParts (embeds : Bool) (chunks : List (List Part)) : Prop := ∀ c ∈ chunks, ∀ p ∈ c, p.isForeign → embeds

/-- Renderings in all modes write the same parts and end in the same way, and what they end well with has a property. -/
def Uniform (embeds : Bool) (view : Mode → α → β) (P : α → Prop) (t : Mode → Trace β) : Prop :=
  ∃ (chunks : List (List Part)) (r : Eval α), OwnParts embeds chunks ∧ Yields r P ∧
    ∀ μ, t μ = ⟨chunks.map (chunkText μ), r.map (view μ)⟩

/-- What is the same in all modes. -/
abbrev fixed : Mode → α → α := fun _ a => a

section Uniform

variable {view : Mode → α → β} {P : α → Prop} {view' : Mode → γ → δ} {Q : γ → Prop}

theorem uniform_result (r : Eval α) (hr : Yields r P) :
    Uniform embeds view P fun μ => Trace.ofEval (r.map (view μ)) :=
  ⟨[], r, List.forall_mem_nil _, hr, fun _ => rfl⟩

theorem uniform_pure (a : α) (h : P a) : Uniform embeds view P fun μ => (pure (view μ a) : Trace β) :=
  uniform_result (.ok a) (yields_ok h)

theorem uniform_fail (f : Fault) : Uniform embeds view P fun _ => (Trace.fail f : Trace β) :=
  uniform_result (.error f) (yields_error f)

theorem Uniform.bind {t : Mode → Trace β} {f : Mode → β → Trace δ} (ht : Uniform embeds view P t)
    (hf : ∀ a, P a → Uniform embeds view' Q fun μ => f μ (view μ a)) :
    Uniform embeds view' Q fun μ => t μ >>= f μ := by
  obtain ⟨chunks, r, hchunks, hr, ht⟩ := ht
  cases r with
  | error e =>
    refine ⟨chunks, .error e, hchunks, yields_error e, fun μ => ?_⟩
    show t μ >>= f μ = _
    rw [ht μ]
    rfl
  | ok a =>
    obtain ⟨chunks', r', hchunks', hr', hf⟩ := hf a (hr a rfl)
    refine ⟨chunks ++ chunks', r', ?_, hr', fun μ => ?_⟩
    · exact fun c hc => (List.mem_append.mp hc).elim (hchunks c) (hchunks' c)
    · show t μ >>= f μ = _
      rw [ht μ]
      have hf : f μ (view μ a) = _ := hf μ
      show (⟨chunks.map (chunkText μ) ++ (f μ (view μ a)).chunks, (f μ (view μ a)).result⟩ : Trace δ) = _
      rw [hf, List.map_append]

theorem Uniform.andThen {t : Mode → Trace Unit} {t' : Mode → Trace δ}
    (ht : Uniform embeds fixed (fun _ => True) t) (ht' : Uniform embeds view' Q t') :
    Uniform embeds view' Q fun μ => t μ >>= fun _ => t' μ :=
  ht.bind fun _ _ => ht'

theorem Uniform.discard {t : Mode → Trace β} (ht : Uniform embeds view P t) :
    Uniform embeds fixed (fun _ => True) fun μ => (discard (t μ) : Trace Unit) :=
  ht.bind fun _ _ => uniform_pure () trivial

/-- An evaluation that is the same in all modes. -/
theorem uniform_ofEval {x : Eval α} {x' : Mode → Eval α} (hx : ∀ μ, Agreed P x (x' μ)) :
    Uniform embeds fixed P fun μ => Trace.ofEval (x' μ) := by
  refine ⟨[], x, List.forall_mem_nil _, (hx ⟨id, false⟩).2, fun μ => ?_⟩
  show Trace.ofEval (x' μ) = _
  rw [(hx μ).1]
  cases x <;> rfl

theorem uniform_same (x : Eval α) (hx : Yields x P) : Uniform embeds fixed P fun _ => Trace.ofEval x :=
  uniform_ofEval fun _ => agreed_of_yields hx

theorem uniform_ite (c : Bool) {c' : Mode → Bool} {t t' : Mode → Trace β} (hc : ∀ μ, c' μ = c)
    (ht : Uniform embeds view P t) (ht' : Uniform embeds view P t') :
    Uniform embeds view P fun μ => if c' μ then t μ else t' μ := by
  simp only [hc]
  cases c with
  | true => exact ht
  | false => exact ht'

/-- A chunk of several parts. -/
theorem uniform_write (parts : List Part) (h : ∀ p ∈ parts, p.isForeign → embeds) :
    Uniform embeds fixed (fun _ => True) fun μ => Trace.write (chunkText μ parts) := by
  refine ⟨[parts], .ok (), fun c hc => ?_, yields_ok trivial, fun μ => rfl⟩
  rw [List.mem_singleton.mp hc]
  exact h

/-- What another document writes, if there may be one. -/
theorem uniform_foreign (hembeds : embeds) (t : Trace Unit) :
    Uniform embeds fixed (fun _ => True) fun _ => t := by
  refine ⟨t.chunks.map fun s => [.foreign s], t.result, fun _ _ _ _ _ => hembeds, fun _ _ => trivial, fun μ => ?_⟩
  have hchunks : (t.chunks.map fun s => [Part.foreign s]).map (chunkText μ) = t.chunks := by
    rw [List.map_map]
    refine (List.map_congr_left fun s _ => ?_).trans (List.map_id _)
    exact String.empty_append
  rw [hchunks]
  obtain ⟨chunks, result⟩ := t
  cases result <;> rfl

end Uniform

/-! ## Names -/

theorem yields_unpack {v : Value} (hv : v.Unmarked) (n : Nat) : Yields (unpack v n) AllUnmarked := by
  have helements := yields_elementsOf hv
  unfold unpack
  cases he : elementsOf v with
  | error f => exact yields_error _
  | ok e =>
    have hvalues := helements e he
    refine yields_ite (yields_error _) ?_
    cases e.failure with
    | some f => exact yields_error f
    | none => exact yields_ite (yields_error _) (yields_ok hvalues)

mutual

theorem yields_bindTarget : ∀ (t : Target) {v : Value}, v.Unmarked → Yields (bindTarget t v) NamedUnmarked
  | .name _ n, v, hv => yields_ok fun p hp => by
    rw [List.mem_singleton.mp hp]
    exact hv
  | .tuple ts, v, hv => (yields_unpack hv ts.length).bind fun vs hvs => yields_bindTargets ts hvs
  | .member _ _, _, _ => yields_error _

theorem yields_bindTargets : ∀ (ts : List Target) {vs : List Value}, AllUnmarked vs →
    Yields (bindTargets ts vs) NamedUnmarked
  | [], _, _ => yields_ok (List.forall_mem_nil _)
  | _ :: _, [], _ => yields_ok (List.forall_mem_nil _)
  | t :: ts, v :: vs, hvs => by
    obtain ⟨hv, hvs⟩ := List.forall_mem_cons.mp hvs
    refine (yields_bindTarget t hv).bind fun first hfirst => ?_
    refine (yields_bindTargets ts hvs).bind fun rest hrest => yields_ok fun p hp => ?_
    exact (List.mem_append.mp hp).elim (hrest p) (hfirst p)

end

/-! ## Scopes and machines -/

/-- Statements that make no markup and do not inherit. -/
abbrev Stmt.Inert (embeds : Bool) (ss : List Stmt) : Prop :=
  Stmt.allUnmarked embeds ss ∧ Stmt.allDiscreet false embeds ss

/-- A scope that statements without markup are rendered in, whose blocks are of such statements, too. -/
structure Scope.Renders (embeds : Bool) (s : Scope) : Prop extends s.Unmarked where
  blocks : ∀ n, ∀ b ∈ s.sources n, Stmt.Inert embeds b.block.body

variable {s : Scope}

namespace Scope.Renders

variable (h : s.Renders embeds)

include h

theorem inside {names : Bindings} (hnames : NamedUnmarked names) : (s.inside names).Renders embeds :=
  ⟨h.toUnmarked.inside hnames, h.blocks⟩

theorem bind {names : Bindings} (hnames : NamedUnmarked names) : (s.bind names).Renders embeds where
  frames := by
    intro f hf
    unfold Scope.bind at hf
    cases hframes : s.frames with
    | nil =>
      rw [hframes] at hf
      rw [List.mem_singleton.mp hf]
      exact hnames
    | cons f' fs =>
      rw [hframes] at hf
      have hold := h.frames
      rw [hframes] at hold
      obtain ⟨hfirst, hrest⟩ := List.forall_mem_cons.mp hold
      rcases List.mem_cons.mp hf with rfl | hf
      · exact fun p hp => (List.mem_append.mp hp).elim (hnames p) (hfirst p)
      · exact hrest f hf
  globals := by
    show NamedUnmarked (if s.top then names ++ s.globals else s.globals)
    split
    · exact fun p hp => (List.mem_append.mp hp).elim (hnames p) (h.globals p)
    · exact h.globals
  lone := h.lone
  blocks := h.blocks

theorem visible : NamedUnmarked s.visible := by
  intro p hp
  rcases List.mem_append.mp hp with hp | hp
  · obtain ⟨f, hf, hp⟩ := List.mem_flatten.mp hp
    exact h.frames f hf p hp
  · exact h.globals p hp

theorem forBlock (b : BlockSource) (level : Nat) {globals : Bindings} (hglobals : NamedUnmarked globals) :
    (s.forBlock b level globals).Renders embeds where
  frames f hf := by
    rw [List.mem_singleton.mp hf]
    exact List.forall_mem_nil _
  globals := hglobals
  lone := h.lone
  blocks := h.blocks

end Scope.Renders

/-- Machines, one for each mode, that render the same parts. Where other documents are included, they are one
    machine. -/
structure MachinesAgree (embeds : Bool) (ms : Mode → Machine) : Prop where
  run : ∀ {s : Scope} {ss : List Stmt}, s.Renders embeds → Stmt.Inert embeds ss →
    Uniform embeds Scope.view (Scope.Renders embeds) fun μ => (ms μ).run (s.view μ) (Stmt.retextAll μ.literal ss)
  same : embeds → ∀ μ ν, ms μ = ms ν

variable {ms : Mode → Machine}

theorem evaluate_modes (ms : Mode → Machine) (h : s.Renders embeds) {e : Expr} (he : e.unmarked) :
    Uniform embeds fixed Value.Unmarked fun μ => Trace.ofEval (evaluate (ms μ) (s.view μ) e) := by
  have hagreed (μ : Mode) : Agreed Value.Unmarked (evaluate (ms ⟨id, false⟩) s e) (evaluate (ms μ) (s.view μ) e) :=
    evaluate_agreed h.toUnmarked e he
  exact uniform_ofEval hagreed

/-! ## Output -/

/-- Constant texts as one chunk. -/
theorem writeKnown_uniform {known : List Part} (hknown : ∀ p ∈ known, p.isForeign → embeds) :
    Uniform embeds fixed (fun _ => True) fun μ => writePieces.writeKnown (known.map (Part.text μ)) := by
  have hwrite (μ : Mode) : writePieces.writeKnown (known.map (Part.text μ)) =
      if known.isEmpty then pure () else Trace.write (chunkText μ known.reverse) := by
    rw [writePieces.writeKnown, List.isEmpty_map, chunkText, List.map_reverse]
  simp only [hwrite]
  refine uniform_ite known.isEmpty (fun _ => rfl) (uniform_pure () trivial) (uniform_write _ fun p hp => ?_)
  exact hknown p (List.mem_reverse.mp hp)

/-- A value without markup is one chunk of output. -/
theorem writeValue_uniform {v : Value} (hv : v.Unmarked) :
    Uniform embeds fixed (fun _ => True) fun μ => Trace.write (v.written μ.escape) := by
  have hwritten (μ : Mode) : Trace.write (v.written μ.escape) = Trace.write (chunkText μ [.output v.display]) := by
    rw [hv.written, chunkText]
    exact congrArg Trace.write String.empty_append.symm
  simp only [hwritten]
  exact uniform_write _ fun p hp => by
    rw [List.mem_singleton.mp hp]
    exact fun h => absurd h Bool.false_ne_true

theorem writePieces_uniform (h : s.Renders embeds) : ∀ (ps : List Piece) (known : List Part),
    ps.all Piece.unmarked → (∀ p ∈ known, p.isForeign → embeds) →
      Uniform embeds fixed (fun _ => True) fun μ =>
        writePieces (ms μ) (s.view μ) (known.map (Part.text μ)) (ps.map (Piece.retext μ.literal))
  | [], known, _, hknown => writeKnown_uniform hknown
  | .text t :: ps, known, hps, hknown =>
    writePieces_uniform h ps (.literal t :: known) hps (List.forall_mem_cons.mpr ⟨fun h => absurd h Bool.false_ne_true, hknown⟩)
  | .value e :: ps, known, hps, hknown => by
    obtain ⟨he, hps⟩ := Bool.and_eq_true_iff.mp hps
    -- a constant is the same value in every mode, written as the mode has it
    have hconstant (μ : Mode) : (Piece.value e).constant? μ.escape =
        (constValue false e).map fun v => Part.text μ (.output v.display) := by
      have hvalue := constValue_known μ.escape e he
      rw [Piece.constant?, hvalue.1]
      cases hconst : constValue false e with
      | none => rfl
      | some v => exact congrArg some ((hvalue.2 v hconst).written μ.escape)
    have hpieces (μ : Mode) : writePieces (ms μ) (s.view μ) (known.map (Part.text μ))
        ((Piece.value e :: ps).map (Piece.retext μ.literal)) =
          ((constValue false e).map fun v => Part.text μ (.output v.display)).elim
            (writePieces.writeKnown (known.map (Part.text μ)) >>= fun _ =>
              Trace.ofEval (evaluate (ms μ) (s.view μ) e) >>= fun v => Trace.write (v.written μ.escape) >>= fun _ =>
                writePieces (ms μ) (s.view μ) [] (ps.map (Piece.retext μ.literal)))
            fun t =>
              writePieces (ms μ) (s.view μ) (t :: known.map (Part.text μ)) (ps.map (Piece.retext μ.literal)) := by
      rw [← hconstant, List.map_cons, Piece.retext, writePieces]
      unfold Scope.view
      cases (Piece.value e).constant? μ.escape <;> rfl
    simp only [hpieces]
    cases constValue false e with
    | some v =>
      exact writePieces_uniform h ps (.output v.display :: known) hps
        (List.forall_mem_cons.mpr ⟨fun h => absurd h Bool.false_ne_true, hknown⟩)
    | none =>
      refine (writeKnown_uniform hknown).andThen ((evaluate_modes ms h he).bind fun v hv => ?_)
      exact (writeValue_uniform hv).andThen (writePieces_uniform h ps [] hps (List.forall_mem_nil _))

/-! ## Loops -/

theorem uniform_runLoop {body : Mode → Nat → List Value → Value → List Value → Trace Unit}
    (hbody : ∀ index previous v next, AllUnmarked previous → v.Unmarked → AllUnmarked next →
      Uniform embeds fixed (fun _ => True) fun μ => body μ index previous v next) :
    ∀ (vs : List Value) (index : Nat) (previous : List Value), AllUnmarked vs → AllUnmarked previous →
      Uniform embeds fixed (fun _ => True) fun μ => runLoop (body μ) index previous vs
  | [], _, _, _, _ => uniform_pure () trivial
  | v :: vs, index, previous, hvs, hprevious => by
    obtain ⟨hv, hvs⟩ := List.forall_mem_cons.mp hvs
    refine (hbody index previous v (vs.take 1) hprevious hv fun w hw => hvs w (List.mem_of_mem_take hw)).andThen ?_
    exact uniform_runLoop hbody vs (index + 1) [v] hvs (List.forall_mem_singleton.mpr hv)

theorem filterElements_congr {holds holds' : Value → Eval Bool} (failure : Option Fault) : ∀ {vs : List Value},
    (∀ v ∈ vs, holds' v = holds v) → filterElements holds' failure vs = filterElements holds failure vs
  | [], _ => rfl
  | v :: vs, h => by
    rw [filterElements, filterElements, h v List.mem_cons_self,
      filterElements_congr failure fun w hw => h w (List.mem_cons_of_mem v hw)]

theorem filterElements_subset (holds : Value → Eval Bool) (failure : Option Fault) (vs : List Value) :
    (filterElements holds failure vs).values ⊆ vs := by
  induction vs with
  | nil => exact List.Subset.refl _
  | cons v vs ih =>
    rw [filterElements]
    cases holds v with
    | error e => exact List.nil_subset _
    | ok keep =>
      cases keep with
      | false => exact List.subset_cons_of_subset v ih
      | true => exact List.cons_subset_cons v ih

theorem chosenElements_modes (m m' : Machine) (h : s.Renders embeds) (target : Target) {condition : Option Expr}
    (hcondition : condition.all Expr.unmarked) {e : Elements} (he : AllUnmarked e.values) (μ : Mode) :
    chosenElements m' (s.view μ) target condition e = chosenElements m s target condition e ∧
      AllUnmarked (chosenElements m s target condition e).values := by
  cases condition with
  | none => exact ⟨rfl, he⟩
  | some c =>
    refine ⟨filterElements_congr e.failure fun v hv => ?_, allUnmarked_of_subset he (filterElements_subset _ _ _)⟩
    refine ((yields_bindTarget target (he v hv)).bind_congr fun names hnames => ?_).symm
    have hvalue : Agreed Value.Unmarked (evaluate m (s.inside names) c) (evaluate m' ((s.inside names).view μ) c) :=
      evaluate_agreed (h.inside hnames).toUnmarked c hcondition
    show _ = evaluate m' ((s.inside names).view μ) c >>= _
    rw [hvalue.1]

theorem unmarked_loopNames (stateful : Bool) (index length : Nat) {previous next : List Value} {names : Bindings}
    (hprevious : AllUnmarked previous) (hnext : AllUnmarked next) (hnames : NamedUnmarked names) :
    NamedUnmarked (loopNames stateful index length previous next names) := by
  unfold loopNames
  split
  · intro p hp
    rcases List.mem_append.mp hp with hp | hp
    · exact hnames p hp
    · rw [List.mem_singleton.mp hp]
      exact .loop _ _ hprevious hnext
  · exact hnames

/-! ## Blocks and other documents -/

theorem blockOutput_uniform (hms : MachinesAgree embeds ms) (h : s.Renders embeds) (name : String)
    (withLocals required : Bool) : Uniform embeds fixed (fun _ => True) fun μ =>
      blockOutput (ms μ) (s.view μ) name withLocals required := by
  have hglobals : NamedUnmarked (if withLocals then s.visible else s.globals) := by
    split
    · exact h.visible
    · exact h.globals
  have hblocks := h.blocks name
  -- which block is rendered, and whether one is, does not depend on the mode
  have houtput (μ : Mode) : blockOutput (ms μ) (s.view μ) name withLocals required =
      if s.top && s.parent.isSome then pure ()
      else (s.sources name).head?.elim (pure ()) fun b =>
        if required && (s.sources name).tail.isEmpty then Trace.fail (.requiredBlock name)
        else discard ((ms μ).run ((s.forBlock b 0 (if withLocals then s.visible else s.globals)).view μ)
          (Stmt.retextAll μ.literal b.block.body)) := by
    rw [blockOutput, Scope.sources_view]
    cases s.sources name with
    | nil => rfl
    | cons b bs =>
      show (if _ then _ else if required && (bs.map (BlockSource.view μ)).isEmpty then _ else _) = _
      rw [List.isEmpty_map]
      rfl
  simp only [houtput]
  refine uniform_ite (s.top && s.parent.isSome) (fun _ => rfl) (uniform_pure () trivial) ?_
  cases hsources : s.sources name with
  | nil => exact uniform_pure () trivial
  | cons b bs =>
    rw [hsources] at hblocks
    have hrun := hms.run (h.forBlock b 0 hglobals) (hblocks b List.mem_cons_self)
    exact uniform_ite (required && bs.isEmpty) (fun _ => rfl) (uniform_fail _) hrun.discard

theorem embedded_uniform (hms : MachinesAgree embeds ms) (hembeds : embeds) (v : Value)
    (ignoreMissing withContext : Bool) : Uniform embeds fixed (fun _ => True) fun μ =>
      embedded (ms μ) (s.view μ) ignoreMissing withContext (findDocument (ms μ) v) := by
  have hsame (μ : Mode) : embedded (ms μ) (s.view μ) ignoreMissing withContext (findDocument (ms μ) v) =
      embedded (ms ⟨id, false⟩) s ignoreMissing withContext (findDocument (ms ⟨id, false⟩) v) := by
    rw [hms.same hembeds μ ⟨id, false⟩]
    rfl
  simp only [hsame]
  exact uniform_foreign hembeds _

/-! ## Statements -/

mutual

/-- **A statement that makes no markup** writes the same parts in every mode. -/
theorem execute_uniform (hms : MachinesAgree embeds ms) : ∀ (st : Stmt) {s : Scope}, s.Renders embeds →
    st.unmarked embeds → st.discreet false embeds → Uniform embeds Scope.view (Scope.Renders embeds) fun μ =>
      execute (ms μ) (s.view μ) (st.retext μ.literal)
  | .output pieces, s, h, hst, _ => by
    simp only [Stmt.retext, execute_output]
    refine Uniform.andThen ?_ (uniform_pure s h)
    refine uniform_ite s.parent.isNone (fun _ => rfl) ?_ (uniform_pure () trivial)
    exact writePieces_uniform h pieces [] hst (List.forall_mem_nil _)
  | .forLoop target source condition recursive body otherwise, s, h, hst, hd => by
    obtain ⟨hsource, hrest⟩ := Bool.and_eq_true_iff.mp hst
    obtain ⟨hcondition, hrest⟩ := Bool.and_eq_true_iff.mp hrest
    obtain ⟨hbody, hotherwise⟩ := Bool.and_eq_true_iff.mp hrest
    obtain ⟨-, hrestd⟩ := Bool.and_eq_true_iff.mp hd
    obtain ⟨-, hrestd⟩ := Bool.and_eq_true_iff.mp hrestd
    obtain ⟨hbodyd, hotherwised⟩ := Bool.and_eq_true_iff.mp hrestd
    have hstateful (μ : Mode) : isStateful recursive (Stmt.retextAll μ.literal body)
        (Stmt.retextAll μ.literal otherwise) = isStateful recursive body otherwise := by
      simp only [isStateful, Stmt.anyMentions_retext, Stmt.anyLocalBlock_retext]
    simp only [Stmt.retext, execute_forLoop, hstateful]
    refine (evaluate_modes ms h hsource).bind fun v hv => ?_
    refine (uniform_same _ (yields_elementsOf hv)).bind fun e he => ?_
    have hchosen (μ : Mode) := chosenElements_modes (ms ⟨id, false⟩) (ms μ) h target hcondition he μ
    simp only [fixed, fun μ => (hchosen μ).1]
    refine Uniform.andThen ?_ (uniform_pure s h)
    have hvalues := (hchosen ⟨id, false⟩).2
    generalize chosenElements (ms ⟨id, false⟩) s target condition e = e at hvalues
    obtain ⟨vs, failure⟩ := e
    have hnone : AllUnmarked [] := List.forall_mem_nil _
    refine (uniform_runLoop (fun index previous v next hprevious hv hnext => ?_) vs 0 [] hvalues hnone).andThen ?_
    · refine (uniform_same _ (yields_bindTarget target hv)).bind fun names hnames => ?_
      have hinside := h.inside (unmarked_loopNames (isStateful recursive body otherwise) index vs.length hprevious hnext
        hnames)
      exact (executeAll_uniform hms body hinside hbody hbodyd).discard
    · refine Uniform.andThen ?_ ?_
      · cases failure with
        | none => exact uniform_pure () trivial
        | some f => exact uniform_fail f
      · have hinside : (s.inside []).Renders embeds := h.inside (List.forall_mem_nil _)
        have hotherwise := executeAll_uniform hms otherwise hinside hotherwise hotherwised
        exact uniform_ite vs.isEmpty (fun _ => rfl) hotherwise.discard (uniform_pure () trivial)
  | .branch test body otherwise, s, h, hst, hd => by
    obtain ⟨htest, hrest⟩ := Bool.and_eq_true_iff.mp hst
    obtain ⟨hbody, hotherwise⟩ := Bool.and_eq_true_iff.mp hrest
    obtain ⟨-, hrestd⟩ := Bool.and_eq_true_iff.mp hd
    obtain ⟨hbodyd, hotherwised⟩ := Bool.and_eq_true_iff.mp hrestd
    simp only [Stmt.retext, execute]
    refine (evaluate_modes ms h htest).bind fun v _ => ?_
    exact uniform_ite v.isTruthy (fun _ => rfl) (executeAll_uniform hms body h hbody hbodyd)
      (executeAll_uniform hms otherwise h hotherwise hotherwised)
  | .assign target value, s, h, hst, _ => by
    simp only [Stmt.retext, execute_assign]
    refine Uniform.andThen ?_ ?_
    · exact uniform_ite target.hasMember (fun _ => rfl) (uniform_fail _) (uniform_pure () trivial)
    · refine (evaluate_modes ms h hst).bind fun v hv => ?_
      refine (uniform_same _ (yields_bindTarget target hv)).bind fun names hnames => ?_
      exact uniform_pure (s.bind names) (h.bind hnames)
  | .scope targets values body, s, h, hst, hd => by
    obtain ⟨hvalues, hbody⟩ := Bool.and_eq_true_iff.mp hst
    obtain ⟨-, hbodyd⟩ := Bool.and_eq_true_iff.mp hd
    simp only [Stmt.retext, execute]
    have hall (μ : Mode) : Agreed AllUnmarked (allValues (evaluateEach (ms ⟨id, false⟩) s values))
        (allValues (evaluateEach (ms μ) (s.view μ) values)) :=
      agreed_allValues (evaluateEach_agreed h.toUnmarked values hvalues)
    refine (uniform_ofEval hall).bind fun vs hvs => ?_
    refine (uniform_same _ (yields_bindTargets targets hvs)).bind fun names hnames => ?_
    exact (executeAll_uniform hms body (h.inside hnames) hbody hbodyd).discard.andThen (uniform_pure s h)
  | .block line name withLocals required body, s, h, _, _ => by
    simp only [Stmt.retext, execute_block]
    exact (blockOutput_uniform hms h name withLocals required).andThen (uniform_pure s h)
  | .embed source ignoreMissing withContext, s, h, hst, _ => by
    obtain ⟨hembeds, hsource⟩ := Bool.and_eq_true_iff.mp hst
    simp only [Stmt.retext, execute_embed]
    refine (evaluate_modes ms h hsource).bind fun v _ => ?_
    exact (embedded_uniform hms hembeds v ignoreMissing withContext).andThen (uniform_pure s h)
  | .inherit _ _, _, _, _, hd => nomatch hd
  | .capture _ _ _, _, _, hst, _ | .definition _ _ _ _, _, _, hst, _ | .callBlock _ _ _ _, _, _, hst, _
  | .filterBlock _ _, _, _, hst, _ | .escaping _ _, _, _, hst, _ | .importing _ _, _, _, hst, _ => nomatch hst

theorem executeAll_uniform (hms : MachinesAgree embeds ms) : ∀ (ss : List Stmt) {s : Scope}, s.Renders embeds →
    Stmt.allUnmarked embeds ss → Stmt.allDiscreet false embeds ss → Uniform embeds Scope.view (Scope.Renders embeds) fun μ =>
      executeAll (ms μ) (s.view μ) (Stmt.retextAll μ.literal ss)
  | [], s, h, _, _ => uniform_pure s h
  | st :: ss, s, h, hss, hd => by
    obtain ⟨hst, hss⟩ := Bool.and_eq_true_iff.mp hss
    obtain ⟨hstd, hssd⟩ := Bool.and_eq_true_iff.mp hd
    simp only [Stmt.retextAll, executeAll]
    exact (execute_uniform hms st h hst hstd).bind fun s' hs' => executeAll_uniform hms ss hs' hss hssd

end

/-! ## Calls -/

/-- **Machines of any depth** render the same parts in all modes, if the documents that they are asked for are the same
    where there may be some. -/
theorem machinesAgree {loads : Mode → String → Eval Document} (hloads : embeds → ∀ μ ν, loads μ = loads ν)
    (depth : Nat) : MachinesAgree embeds fun μ => machine (loads μ) depth := by
  induction depth with
  | zero => exact ⟨fun _ _ => uniform_fail _, fun hembeds μ ν => congrArg (machine · 0) (hloads hembeds μ ν)⟩
  | succ depth ih =>
    exact ⟨fun hs hss => executeAll_uniform ih _ hs hss.1 hss.2,
      fun hembeds μ ν => congrArg (machine · (depth + 1)) (hloads hembeds μ ν)⟩

/-! ## Blocks by themselves -/

theorem blockScope_view (d : Document) (b : Block) (globals : Bindings) (μ : Mode) :
    blockScope (d.view μ) (b.retext μ.literal) globals = (blockScope d b globals).view μ := by
  have hsources : (d.view μ).blockSources.map (fun p => (p.1, [p.2])) =
      (d.blockSources.map fun p => (p.1, [p.2])).map (Prod.map id (List.map (BlockSource.view μ))) := by
    show List.map _ (List.map _ (List.map _ d.blocks)) = List.map _ (List.map _ (List.map _ d.blocks))
    simp only [List.map_map]
    rfl
  unfold blockScope Scope.ofDocument Scope.view Scope.forBlock
  dsimp only
  rw [hsources]
  rfl

/-- The blocks of a name are at most one, for the names of blocks differ. -/
theorem lone_blockScope (d : Document) (b : Block) (globals : Bindings) (n : String) :
    ((blockScope d b globals).sources n).length ≤ 1 := by
  change (((d.blockSources.map fun p => (p.1, [p.2])).lookup n).getD []).length ≤ 1
  generalize d.blockSources = sources
  induction sources with
  | nil => exact Nat.zero_le 1
  | cons p ps ih =>
    rw [List.map_cons, List.lookup_cons]
    split
    · exact Nat.le_refl 1
    · exact ih

theorem renders_blockScope {d : Document} {b : Block} {globals : Bindings} (hglobals : NamedUnmarked globals)
    (hblocks : ∀ b ∈ d.blocks, Stmt.Inert embeds b.body) : (blockScope d b globals).Renders embeds where
  frames f hf := by
    rw [List.mem_singleton.mp hf]
    exact List.forall_mem_nil _
  globals := hglobals
  lone := lone_blockScope d b globals
  blocks n source hsource := hblocks source.block (mem_blocks_of_source hsource).1

/-- **A part of a block** is rendered in all modes from the same parts, if it and its document's blocks make no markup
    and other documents, if they include any, are the same. -/
theorem renderPart_uniform {loads : Mode → String → Eval Document} (hloads : embeds → ∀ μ ν, loads μ = loads ν)
    {d : Document} (hblocks : ∀ b ∈ d.blocks, Stmt.Inert embeds b.body) (b : Block) {globals : Bindings}
    (hglobals : NamedUnmarked globals) {part : List Stmt} (hpart : Stmt.Inert embeds part) :
    Uniform embeds fixed (fun _ => True) fun μ =>
      renderPart (loads μ) (d.view μ) (b.retext μ.literal) (Stmt.retextAll μ.literal part) globals := by
  have hrun := (machinesAgree hloads callDepth).run (renders_blockScope (b := b) hglobals hblocks) hpart
  have hrender (μ : Mode) :
      renderPart (loads μ) (d.view μ) (b.retext μ.literal) (Stmt.retextAll μ.literal part) globals =
        discard ((machine (loads μ) callDepth).run ((blockScope d b globals).view μ)
          (Stmt.retextAll μ.literal part)) := by
    rw [← blockScope_view]
    rfl
  simp only [hrender]
  exact hrun.discard

end RenderBench.Template
