import RenderBench.Proofs.Template.Relabel.Execute

/-!
# `Proofs.Template.Relabel.Machine` — renderings under a relabelling

The induction over the depth of calls. Whole documents are rendered with everything allowed, and a relabelling of the
names of files then has to leave those of the documents that are asked for alone. A block by itself is rendered under
a regime of its own: its document's blocks are discreet, so that its name may become another one.

## Contents
- `Relabelling.Idle`: relabellings that change nothing.
- `Relabelling.Answers`: what the two machines get when they ask for documents.
- `respects_free`, `respects_keeper`, `respects`: machines of any depth.
- `renderPart_relabel`: a part of a block by itself.
-/

namespace RenderBench.Template

variable {α β : Type} {g : Regime} {r : Relabelling} {load load' : String → Eval Document}

/-! ## Relabellings that change nothing -/

section Identity

variable (hfile : ∀ t, r.file t = t) (hline : ∀ n, r.line n = n)

include hfile hline

theorem Absence.relabel_self (a : Absence) : a.relabel r = a := by
  cases a with
  | alternative line template => exact congrArg₂ Absence.alternative (hline line) (hfile template)
  | _ => rfl

theorem Candidate.relabel_self (c : Candidate) : c.relabel r = c := by
  cases c with
  | absent a => exact congrArg Candidate.absent (a.relabel_self hfile hline)
  | name n => rfl

theorem Fault.relabel_self (f : Fault) : f.relabel r = f := by
  cases f with
  | absent a => exact congrArg Fault.absent (a.relabel_self hfile hline)
  | templateMissing reason =>
    cases reason with
    | noneOf cs =>
      have hcs : cs.map (Candidate.relabel r) = cs := List.map_id'' (Candidate.relabel_self hfile hline) cs
      exact congrArg (fun cs => Fault.templateMissing (.noneOf cs)) hcs
    | _ => rfl
  | _ => rfl

theorem Document.relabel_self (d : Document) : d.relabel r = d := by
  rw [relabel, d.reline_same hline, hfile]

theorem relabel_evalDocument_self (x : Eval Document) : relabel r x = x := by
  cases x with
  | ok d => exact congrArg Except.ok (d.relabel_self hfile hline)
  | error f => exact congrArg Except.error (f.relabel_self hfile hline)

theorem relabel_trace_self (t : Trace Unit) : relabel r t = t := by
  obtain ⟨chunks, result⟩ := t
  cases result with
  | ok u => rfl
  | error f => exact congrArg (fun f => (⟨chunks, .error f⟩ : Trace Unit)) (f.relabel_self hfile hline)

end Identity

/-- A relabelling that changes nothing at all. -/
structure Relabelling.Idle (r : Relabelling) : Prop where
  file : ∀ t, r.file t = t
  line : ∀ n, r.line n = n
  definition : ∀ d, r.definition d = d
  whole : r.Whole

mutual

theorem Value.relabel_idle (h : r.Idle) : ∀ v : Value, v.relabel r = v
  | .absent a => congrArg Value.absent (a.relabel_self h.file h.line)
  | .list es => congrArg Value.list (Value.relabelAll_idle h es)
  | .tuple es => congrArg Value.tuple (Value.relabelAll_idle h es)
  | .dict es => congrArg Value.dict (Value.relabelEntries_idle h es)
  | .lazy k es failure => by
    have hfailure : failure.map (Fault.relabel r) = failure := by
      cases failure with
      | none => rfl
      | some f => exact congrArg some (f.relabel_self h.file h.line)
    rw [Value.relabel, Value.relabelAll_idle h es, hfailure]
  | .slice a b c => by rw [Value.relabel, Value.relabel_idle h a, Value.relabel_idle h b, Value.relabel_idle h c]
  | .loop i n p q => by rw [Value.relabel, Value.relabelAll_idle h p, Value.relabelAll_idle h q]
  | .definition d => congrArg Value.definition (h.definition d)
  | .caller body => by
    cases body with
    | ok t => rfl
    | error f => exact congrArg (fun f => Value.caller (.error f)) (f.relabel_self h.file h.line)
  | .itself t names => congrArg (Value.itself t) (List.filter_eq_self.mpr fun n _ => (h.whole n).keeps)
  | .blockRef n l => congrArg (Value.blockRef n) (if_pos (h.whole n).keeps)
  | .none | .bool _ | .int _ | .real _ | .text _ | .markup _ | .item _ | .customer _
  | .range _ _ _ | .foreign _ | .cycle _ | .rangeFunction => rfl

theorem Value.relabelAll_idle (h : r.Idle) : ∀ vs : List Value, Value.relabelAll r vs = vs
  | [] => rfl
  | v :: vs => by rw [Value.relabelAll, Value.relabel_idle h v, Value.relabelAll_idle h vs]

theorem Value.relabelEntries_idle (h : r.Idle) : ∀ es : List (Value × Value), Value.relabelEntries r es = es
  | [] => rfl
  | (k, v) :: es => by
    rw [Value.relabelEntries, Value.relabel_idle h k, Value.relabel_idle h v, Value.relabelEntries_idle h es]

end

theorem relabel_bindings_self {names : Bindings} (h : ∀ p ∈ names, p.2.relabel r = p.2) :
    relabel r names = names := by
  refine (List.map_congr_left (g := id) fun p hp => ?_).trans (List.map_id names)
  exact Prod.ext rfl (h p hp)

theorem Scope.relabel_idle (h : r.Idle) (s : Scope) : s.relabel r = s := by
  have hnames (names : Bindings) : Labelled.relabel r names = names :=
    relabel_bindings_self fun p _ => Value.relabel_idle h p.2
  have hsource (b : BlockSource) : b.relabel r = b := by rw [BlockSource.relabel, b.block.reline_same h.line, h.file]
  have hfilter : s.blocks.filter (fun b => r.shows b.1) = s.blocks :=
    List.filter_eq_self.mpr fun b _ => (h.whole b.1).shows
  have hblocks : s.blocks.map (Prod.map id (List.map (BlockSource.relabel r))) = s.blocks := by
    refine (List.map_congr_left (g := id) fun p _ => ?_).trans (List.map_id s.blocks)
    exact Prod.ext rfl (List.map_id'' hsource p.2)
  have hframes : Labelled.relabel r s.frames = s.frames := List.map_id'' hnames s.frames
  have hparent : s.parent.map (Document.relabel r) = s.parent := by
    cases s.parent with
    | none => rfl
    | some d => exact congrArg some (d.relabel_self h.file h.line)
  rw [relabel, h.file, h.file, hnames, hfilter, hblocks, hframes, Value.relabel_idle h, hparent]

/-! ## Documents -/

/-- Everything is allowed. -/
def Regime.free : Regime := { own := false, loads := true }

theorem idle_free : Regime.free.keeper.Idle := ⟨fun _ => rfl, fun _ => rfl, fun _ => rfl, fun _ => ⟨rfl, rfl⟩⟩

/-- What answers one machine gets to its questions for documents, another one gets relabelled; the relabelling
    leaves their names alone. -/
structure Relabelling.Answers (r : Relabelling) (load load' : String → Eval Document) : Prop where
  relabels : ∀ name, load' name = relabel r (load name)
  named : ∀ name d, load name = .ok d → r.file d.name = d.name

theorem answers_self (hfile : ∀ t, r.file t = t) (hline : ∀ n, r.line n = n) : r.Answers load load where
  relabels name := (relabel_evalDocument_self hfile hline (load name)).symm
  named _ _ _ := hfile _

/-- The scope in which a document is rendered that another one inherits from. -/
def Scope.inherited (s : Scope) (p : Document) : Scope :=
  { s with file := p.name, escape := p.escape, frames := [[]], parent := none }

/-- What is left to render after the statements of a document. -/
def inheritedRest (m : Machine) (s : Scope) : Trace Unit :=
  s.parent.elim (pure ()) fun p => m.runDocument (s.inherited p) p

theorem runDocumentWith_eq (m : Machine) (s : Scope) (d : Document) :
    runDocumentWith m s d = executeAll m s d.body >>= inheritedRest m := by
  refine congrArg (executeAll m s d.body >>= ·) (funext fun after => ?_)
  rw [inheritedRest]
  cases after.parent <;> rfl

/-- A document from its statements on, where everything is allowed. -/
theorem runDocumentWith_relabel {m m' : Machine} {s : Scope} (h : Mirror .free r.opened m m' s) (d : Document) :
    runDocumentWith m' (s.relabel r.opened) (d.relabel r) = relabel r (runDocumentWith m s d) := by
  have hbody : Regime.free.Asks (Stmt.allAllowed Regime.free d.body) := nofun
  rw [runDocumentWith_eq, runDocumentWith_eq]
  refine Trace.bind_relabel (r := r.opened) (executeAll_relabel d.body h hbody) fun after hafter => ?_
  have htitle : r.file after.template = after.template := by
    rw [(executeAll_follows .free d.body s after hafter).template]
    exact h.fits.title rfl
  have hparent : (after.relabel r.opened).parent = after.parent.map (Document.relabel r) := rfl
  rw [inheritedRest, relabel_scope, hparent, inheritedRest]
  cases after.parent with
  | none => rfl
  | some p => exact h.respects.runDocument nofun (Scope.relabel_idle idle_free (after.inherited p)) htitle

/-! ## Machines -/

/-- One call further down, for machines that agree on whole documents. -/
theorem respects_succ (hspares : r.Spares g) {depth : Nat}
    (hk : (machine load depth).Respects g g.keeper (machine load depth))
    (hm : (machine load depth).Respects g r (machine load' depth))
    (hdocument : g.Asks g.loads → ∀ {s d}, s.relabel g.keeper.opened = s → r.file s.template = s.template →
      (machine load' (depth + 1)).runDocument (s.relabel r.opened) (relabel r d) =
        relabel r ((machine load (depth + 1)).runDocument s d)) :
    (machine load (depth + 1)).Respects g r (machine load' (depth + 1)) where
  run {_ ss} hs hss := executeAll_relabel ss ⟨hspares, hk, hm, hs⟩ hss
  evaluate {_ e} hs he := evaluate_relabel e ⟨hspares, hk, hm, hs⟩ he
  load hloads name := by
    have hload := hm.load hloads name
    cases depth <;> exact hload
  loaded hloads {name _} hd := hm.loaded hloads (show (machine load depth).load name = _ by cases depth <;> exact hd)
  runDocument := hdocument

theorem respects_zero (hanswers : g.Asks g.loads → r.Answers load load') :
    (machine load 0).Respects g r (machine load' 0) where
  run _ _ := rfl
  evaluate _ _ := rfl
  load hloads := (hanswers hloads).relabels
  loaded hloads {name d} hd := (hanswers hloads).named name d hd
  runDocument _ _ _ _ _ := rfl

/-- A relabelling that changes nothing but the lines of definitions. -/
def Relabelling.Relines (r : Relabelling) : Prop := ∀ d, r.definition d = d.reline r.line

/-- **Where everything is allowed**, a relabelling of the names of files has to leave those of the documents that
    are asked for alone, and that is all. -/
theorem respects_free (depth : Nat) : ∀ {r : Relabelling} {load'}, r.Relines → r.Answers load load' →
    (machine load depth).Respects .free r.opened (machine load' depth) := by
  induction depth with
  | zero => exact fun _ hanswers => respects_zero fun _ => ⟨hanswers.relabels, hanswers.named⟩
  | succ depth ih =>
    intro r load' hlines hanswers
    have hkeeper := ih (r := Regime.free.keeper) (fun d => (d.reline_same idle_free.line).symm)
      (answers_self idle_free.file idle_free.line)
    have hmachines := ih hlines hanswers
    have hspares : r.opened.Spares .free := ⟨fun d _ => hlines d, fun n _ => whole_opened n⟩
    refine respects_succ hspares hkeeper hmachines fun _ {s d} hs htitle => ?_
    have hfits : Fits .free r.opened s :=
      { kept := hs, blocks := fun _ _ _ _ => nofun, current := fun _ _ _ => nofun, title := fun _ => htitle }
    exact runDocumentWith_relabel ⟨hspares, hkeeper, hmachines, hfits⟩ d

/-- Whole documents with the relabelling that checks what a regime allows. -/
theorem runDocument_keeper (m : Machine) {s : Scope} (hs : s.relabel g.keeper.opened = s) (d : Document) :
    m.runDocument (s.relabel g.keeper.opened) (relabel g.keeper d) = relabel g.keeper (m.runDocument s d) := by
  have hd : relabel g.keeper d = d := d.relabel_self (fun _ => rfl) g.keeper_line
  rw [hs, hd, relabel_trace_self (fun _ => rfl) g.keeper_line]

theorem respects_keeper (g : Regime) (load : String → Eval Document) (depth : Nat) :
    (machine load depth).Respects g g.keeper (machine load depth) := by
  induction depth with
  | zero => exact respects_zero fun _ => answers_self (fun _ => rfl) g.keeper_line
  | succ depth ih => exact respects_succ spares_keeper ih ih fun _ {_ d} hs _ => runDocument_keeper _ hs d

/-- **In every regime**, renderings are relabelled as their scopes are. -/
theorem respects (hlines : r.Relines) (hhas : ∀ n, g.Asks (g.reach n) → r.Has n)
    (hanswers : g.Asks g.loads → r.Answers load load') (depth : Nat) :
    (machine load depth).Respects g r (machine load' depth) := by
  have hspares : r.Spares g := ⟨fun d _ => hlines d, hhas⟩
  induction depth with
  | zero => exact respects_zero hanswers
  | succ depth ih =>
    refine respects_succ hspares (respects_keeper g load depth) ih fun hloads {s d} _ htitle => ?_
    exact (respects_free (depth + 1) hlines (hanswers hloads)).runDocument nofun
      (Scope.relabel_idle idle_free s) htitle

/-! ## Blocks by themselves -/

/-- The scope in which a block is rendered by itself. -/
def blockScope (d : Document) (b : Block) (globals : Bindings) : Scope :=
  { Scope.ofDocument d globals with top := false }.forBlock ⟨b, d.name, d.escape⟩ 0 globals

theorem blockScope_relabel {globals : Bindings} (hshows : ∀ n, r.shows n = true) (hglobals : relabel r globals = globals)
    (d : Document) (b : Block) :
    blockScope (d.relabel r) (b.reline r.line) globals = (blockScope d b globals).relabel r := by
  have hscope := Scope.ofDocument_relabel hshows d globals
  have hsource : (⟨b.reline r.line, (d.relabel r).name, (d.relabel r).escape⟩ : BlockSource) =
      BlockSource.relabel r ⟨b, d.name, d.escape⟩ := rfl
  rw [hglobals] at hscope
  rw [blockScope, hscope, hsource, blockScope, ← Scope.forBlock_relabel, hglobals]
  rfl

theorem mem_blocks_of_source {d : Document} {b : Block} {globals : Bindings} {n : String} {source : BlockSource}
    (h : source ∈ (blockScope d b globals).sources n) : source.block ∈ d.blocks ∧ source.block.name = n := by
  change source ∈ ((d.blockSources.map fun p => (p.1, [p.2])).lookup n).getD [] at h
  rw [Document.blockSources, List.map_map] at h
  generalize d.blocks = blocks at h ⊢
  induction blocks with
  | nil => cases h
  | cons b bs ih =>
    rw [List.map_cons, List.lookup_cons] at h
    split at h
    · rename_i hname
      cases List.mem_singleton.mp h
      exact ⟨List.mem_cons_self .., (beq_iff_eq.mp hname).symm⟩
    · exact (ih h).imp_left (List.mem_cons_of_mem _)

/-- Statements of a block are rendered in a relabelled scope as they are in the scope itself, if they are allowed, and so
    are the blocks of its document that may be reached. -/
theorem runBlock_relabel (hlines : r.Relines) (hhas : ∀ n, g.Asks (g.reach n) → r.Has n)
    (hanswers : g.Asks g.loads → r.Answers load load') (hown : g.own = true) {d : Document} {b : Block}
    (hblocks : ∀ b ∈ d.blocks, g.reach b.name = true → Stmt.allAllowed g b.body = true)
    (hname : g.reach b.name = true) {globals : Bindings} (hglobals : ∀ r : Relabelling, relabel r globals = globals)
    {part : List Stmt} (hpart : Stmt.allAllowed g part = true) :
    (machine load' callDepth).run ((blockScope d b globals).relabel r) (Stmt.relineAll r.line part) =
      relabel r ((machine load callDepth).run (blockScope d b globals) part) := by
  have hkept := blockScope_relabel (r := g.keeper) (fun _ => rfl) (hglobals g.keeper) d b
  rw [d.relabel_self (fun _ => rfl) g.keeper_line, b.reline_same g.keeper_line] at hkept
  -- the scope of the block refers to blocks of its document, of which those reached are allowed
  have hfits : Fits g r (blockScope d b globals) :=
    { kept := hkept.symm
      blocks := fun n hn source hsource hown => by
        obtain ⟨hmem, rfl⟩ := mem_blocks_of_source hsource
        exact Bool.and_eq_true_iff.mpr ⟨hn hown, hblocks source.block hmem (hn hown)⟩
      current := fun n level h _ => by
        cases h
        exact hname
      title := fun h => by
        rw [hown] at h
        cases h }
  exact (respects hlines hhas hanswers callDepth).run hfits fun _ => hpart

/-- **A part of a block** is rendered from a relabelled document as it is from the document itself, if what it is
    rendered with holds no labels, its document's blocks are discreet and other documents, if they ask for any, are
    the same. -/
theorem renderPart_relabel {loads : Bool} (hlines : r.Relines) (hwhole : r.Whole)
    (hanswers : loads = true → r.Answers load load') {d : Document} {b : Block}
    (hblocks : ∀ b ∈ d.blocks, Stmt.allDiscreet false loads b.body = true) {globals : Bindings}
    (hglobals : ∀ r : Relabelling, relabel r globals = globals) {part : List Stmt}
    (hpart : Stmt.allDiscreet false loads part = true) :
    renderPart load' (d.relabel r) (b.reline r.line) (Stmt.relineAll r.line part) globals =
      relabel r (renderPart load d b part globals) := by
  let g : Regime := { own := true, loads }
  have hallowed (ss : List Stmt) (hss : Stmt.allDiscreet false loads ss = true) : Stmt.allAllowed g ss = true := by
    rw [Stmt.allAllowed_eq (g := g) fun _ => rfl]
    exact hss
  have hrun := runBlock_relabel (g := g) (b := b) hlines (fun n _ => hwhole n) (fun hloads => hanswers (hloads rfl)) rfl
    (fun c hc _ => hallowed c.body (hblocks c hc)) rfl hglobals (hallowed part hpart)
  rw [← blockScope_relabel (fun n => (hwhole n).shows) (hglobals r)] at hrun
  exact Trace.discard_relabel hrun

end RenderBench.Template
