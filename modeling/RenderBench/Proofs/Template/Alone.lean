import RenderBench.Proofs.Template.Loading
import RenderBench.Proofs.Template.Parsing.Standing
import RenderBench.Proofs.Template.Relabel.Allowed

/-!
# `Proofs.Template.Alone` — a block by its text

A block is rendered by itself, and what it writes is decided by its text: the words of its text are read as the same
statement wherever they stand in a document, and a rendering of that statement that keeps to the blocks inside it sees
nothing of the rest of the document. Only the lines are other ones, and one failure tells its line.

## Contents
- `blockText?`, `StandsIn`: the text of a block, and documents in which it stands.
- `Block.parts`, `Block.keepsInside`: the blocks inside a block, and blocks that keep to them.
- `parts_sublist`: the blocks of a document in which the text of a block stands.
- `alone`, `renderPart_alone`: a block in two documents.
- `renderInto_alone`: two templates with a block of one text.
- `reason_tells_line`: the line that is told.
-/

namespace RenderBench.Template

/-! ## The text of a block -/

/-- Whether some words begin with the tag of a block. -/
def beginsBlock : List Lexeme → Bool
  | .token ⟨_, .tagBegin⟩ :: .token ⟨_, .name "block"⟩ :: _ => true
  | _ => false

/-- Whether the last of some words ends a tag. -/
def endsWithTag (words : List Lexeme) : Bool :=
  match words.getLast? with
  | some (.token ⟨_, .tagEnd⟩) => true
  | _ => false

/-- The block that a text is, from its opening tag to its closing one. -/
def blockText? (text : List Char) : Option Block :=
  let words := wordsFrom 0 1 text
  if beginsBlock words && (endsWithTag words && text.getLast? == some '\x7d') then
    match parseStatements words with
    | .ok [.block line name withLocals required body] => some ⟨name, line, withLocals, required, body⟩
    | _ => none
  else none

/-- A text stands in a document outside of its tags, comments and raw sections. Line ends are those of one kind. -/
def StandsIn (text : List Char) (source : String) : Prop :=
  ∃ before after words, normalizeLines source.toList = before ++ text ++ after ∧
    lexemes source = words ++ wordsFrom before.length (1 + lineEnds before) (text ++ after)

/-- A block as a statement. -/
def Block.statement (b : Block) : Stmt := .block b.line b.name b.withLocals b.required b.body

/-- A block and the blocks inside it. -/
def Block.parts (b : Block) : List Block := b :: blocksOfAll b.body

/-- Whether a block and those inside it look at the template itself only for one of these blocks, and ask for another
    document only if that is allowed. -/
def Block.keepsInside (loads : Bool) (b : Block) : Bool :=
  b.parts.all fun c => Stmt.allAllowed { own := true, loads, reach := (b.parts.map Block.name).contains } c.body

variable {text : List Char} {b : Block} {source : String} {name : Option String} {escape loads : Bool} {d d' : Document}

theorem exists_of_beginsBlock {words : List Lexeme} (h : beginsBlock words = true) :
    ∃ line rest, words = .token ⟨line, .tagBegin⟩ :: rest ∧ Ahead [.name "block"] rest := by
  unfold beginsBlock at h
  split at h
  · exact ⟨_, _, rfl, rfl, trivial⟩
  · cases h

theorem endsTag_of_endsWithTag {words : List Lexeme} (h : endsWithTag words = true) : EndsTag words := by
  unfold endsWithTag at h
  split at h
  · rename_i hlast
    exact ⟨_, hlast⟩
  · cases h

theorem blockText?_spec (h : blockText? text = some b) :
    beginsBlock (wordsFrom 0 1 text) = true ∧ EndsTag (wordsFrom 0 1 text) ∧ text.getLast? = some '\x7d' ∧
      parseStatements (wordsFrom 0 1 text) = .ok [b.statement] := by
  unfold blockText? at h
  dsimp only at h
  split at h
  · rename_i hcheck
    obtain ⟨hbegins, hcheck⟩ := Bool.and_eq_true_iff.mp hcheck
    obtain ⟨hends, hbrace⟩ := Bool.and_eq_true_iff.mp hcheck
    split at h
    · rename_i hparse
      cases h
      exact ⟨hbegins, endsTag_of_endsWithTag hends, beq_iff_eq.mp hbrace, hparse⟩
    · cases h
  · cases h

/-- **The blocks of a document** in which the text of a block stands: those that the text is, on other lines, are among
    them. -/
theorem parts_sublist (hb : blockText? text = some b) (hin : StandsIn text source)
    (hd : Document.ofText name escape source = .ok d) : ∃ f : Nat → Nat,
      ((b.parts.map (Block.fold escape)).map (Block.reline f)).Sublist d.blocks ∧
        (d.blocks.map Block.name).Nodup := by
  obtain ⟨hbegins, hends, hbrace, hparse⟩ := blockText?_spec hb
  obtain ⟨before, after, words, -, hwords⟩ := hin
  obtain ⟨rest, hrest⟩ := wordsFrom_append hbrace hends before.length (lineEnds before) after
  obtain ⟨line, inner, hinner, hblock⟩ := exists_of_beginsBlock hbegins
  have halone : Alternating (wordsFrom 0 1 text) := (alternates _).1.2
  have hlexemes := alternating_lexemes source
  obtain ⟨statements, hstatements, hd⟩ := exists_of_bind_ok hd
  refine ⟨(· + lineEnds before), ?_, (names_of_ofStatements hd).2⟩
  rw [hinner] at hends hparse hrest halone
  rw [hwords, hrest] at hlexemes hstatements
  -- the block is read as it is read alone, and what it holds is among the blocks of the document
  have hsub := blocksOf_sublist_of_parse hblock hends hparse hlexemes.1 hlexemes.2 halone.2 hstatements
  rw [ofStatements_eq] at hd
  obtain ⟨_, -, hd⟩ := exists_of_bind_ok hd
  cases hd
  -- folding constants does not look at lines
  have hfold := hsub.map (Block.fold escape)
  rw [List.map_map] at hfold
  rw [List.map_map]
  refine (List.map_congr_left fun c _ => ?_) ▸ hfold
  exact Block.fold_reline escape c

/-! ## Blocks of two documents -/

/-- Where names differ, the part of a list is found in it by its names. -/
theorem filter_eq_of_sublist {bs cs : List Block} (h : bs.Sublist cs) (hnodup : (cs.map Block.name).Nodup) :
    cs.filter (fun c => (bs.map Block.name).contains c.name) = bs := by
  induction h with
  | slnil => rfl
  | cons c hsub ih =>
    obtain ⟨hc, hnodup⟩ := List.nodup_cons.mp hnodup
    rw [List.filter_cons_of_neg, ih hnodup]
    exact fun h => hc ((hsub.map Block.name).subset (List.contains_iff_mem.mp h))
  | cons_cons c hsub ih =>
    obtain ⟨hc, hnodup⟩ := List.nodup_cons.mp hnodup
    rw [List.filter_cons_of_pos (by simp)]
    refine congrArg (c :: ·) ((List.filter_congr fun c' hc' => ?_).trans (ih hnodup))
    have hne : c'.name ≠ c.name := fun heq => hc (heq ▸ List.mem_map_of_mem hc')
    rw [List.map_cons, List.contains_cons, beq_eq_false_iff_ne.mpr hne, Bool.false_or]

/-- Only the blocks of some names, and no lines. -/
def alone (names : List String) : Relabelling where
  file := id
  definition := Definition.reline fun _ => 0
  definition_name _ := rfl
  line _ := 0
  shows := names.contains

/-- What two documents show of the blocks of some names, but for the lines. -/
theorem blocks_alone (names : List String) (d : Document) :
    ((d.blockSources.map fun p => (p.1, [p.2])).filter fun p => (alone names).shows p.1).map
        (Prod.map id (List.map (BlockSource.relabel (alone names)))) =
      ((d.blocks.filter fun c => names.contains c.name).map (Block.reline fun _ => 0)).map fun c =>
        (c.name, [⟨c, d.name, d.escape⟩]) := by
  rw [Document.blockSources, List.map_map, List.filter_map, List.map_map, List.map_map]
  rfl

theorem blockScope_alone {names : List String} {b b' : Block} {globals : Bindings} (hname : d.name = d'.name)
    (hescape : d.escape = d'.escape) (hb : b.name = b'.name)
    (hblocks : (d.blocks.filter fun c => names.contains c.name).map (Block.reline fun _ => 0) =
      (d'.blocks.filter fun c => names.contains c.name).map (Block.reline fun _ => 0)) :
    (blockScope d b globals).relabel (alone names) = (blockScope d' b' globals).relabel (alone names) := by
  have h := blocks_alone names d
  rw [hblocks, hname, hescape, ← blocks_alone names d'] at h
  simp only [blockScope, Scope.forBlock, Scope.ofDocument, Scope.relabel, hname, hescape, hb]
  congr 1

/-- The blocks of a document that have the names of some that stand in it on other lines. -/
theorem filter_parts {parts : List Block} {f : Nat → Nat} (hsub : (parts.map (Block.reline f)).Sublist d.blocks)
    (hnodup : (d.blocks.map Block.name).Nodup) :
    d.blocks.filter (fun c => (parts.map Block.name).contains c.name) = parts.map (Block.reline f) := by
  have hshown := filter_eq_of_sublist hsub hnodup
  have hnames : (parts.map (Block.reline f)).map Block.name = parts.map Block.name := by
    rw [List.map_map]
    rfl
  rwa [hnames] at hshown

theorem allAllowed_iff {g : Regime} {ss : List Stmt} :
    Stmt.allAllowed g ss = true ↔ ∀ s ∈ ss, s.allowed g = true := by
  induction ss with
  | nil => exact ⟨fun _ _ hs => absurd hs List.not_mem_nil, fun _ => rfl⟩
  | cons s ss ih => rw [Stmt.allAllowed, Bool.and_eq_true, ih, List.forall_mem_cons]

/-- What blocks that may reach one another only are allowed to do. -/
abbrev insideOnly (loads : Bool) (parts : List Block) : Regime :=
  { own := true, loads, reach := (parts.map Block.name).contains }

/-- What a document makes of a part of one of some blocks, on other lines, that may reach one another only. -/
theorem renderPart_relabel_alone {load load' : String → Eval Document} {parts : List Block} {f : Nat → Nat}
    (hsub : (parts.map (Block.reline f)).Sublist d.blocks) (hnodup : (d.blocks.map Block.name).Nodup)
    (hallowed : ∀ c ∈ parts, Stmt.allAllowed (insideOnly loads parts) c.body = true)
    (hload : loads = true → (alone (parts.map Block.name)).Answers load load') {b : Block} (hb : b ∈ parts)
    {globals : Bindings} (hglobals : ∀ r : Relabelling, relabel r globals = globals) {part : List Stmt}
    (hpart : Stmt.allAllowed (insideOnly loads parts) part = true) :
    relabel (alone (parts.map Block.name)) (renderPart load d (b.reline f) (Stmt.relineAll f part) globals) =
      discard ((machine load' callDepth).run
        ((blockScope d (b.reline f) globals).relabel (alone (parts.map Block.name)))
        (Stmt.relineAll (fun _ => 0) part)) := by
  let g : Regime := insideOnly loads parts
  -- a block that can be reached is one of the parts, since names are not used twice
  have hblocks : ∀ c ∈ d.blocks, g.reach c.name = true → Stmt.allAllowed g c.body = true := by
    intro c hc hreach
    have hmem : c ∈ parts.map (Block.reline f) := filter_parts hsub hnodup ▸ List.mem_filter.mpr ⟨hc, hreach⟩
    obtain ⟨part, hpart, rfl⟩ := List.mem_map.mp hmem
    exact (Stmt.allAllowed_reline part.body).trans (hallowed part hpart)
  have hreach : g.reach b.name = true := List.contains_iff_mem.mpr (List.mem_map_of_mem hb)
  have hrun := runBlock_relabel (r := alone (parts.map Block.name)) (g := g) (b := b.reline f) (fun _ => rfl)
    (fun n hn => ⟨rfl, hn rfl⟩) (fun h => hload (h rfl)) rfl hblocks hreach hglobals
    ((Stmt.allAllowed_reline (f := f) part).trans hpart)
  have hbody : Stmt.relineAll (fun _ => 0) (Stmt.relineAll f part) = Stmt.relineAll (fun _ => 0) part :=
    Stmt.relineAll_reline part
  have hline : (alone (parts.map Block.name)).line = fun _ => 0 := rfl
  rw [hline, hbody] at hrun
  exact (Trace.discard_relabel hrun).symm

/-- **A part of a block in two documents** of one name is rendered alike but for the lines, if it may reach only such
    blocks as both have, and asks for no documents that may not be the same ones. -/
theorem renderPart_alone {load load' : String → Eval Document} {parts : List Block} {f f' : Nat → Nat}
    (hname : d.name = d'.name) (hescape : d.escape = d'.escape)
    (hsub : (parts.map (Block.reline f)).Sublist d.blocks) (hnodup : (d.blocks.map Block.name).Nodup)
    (hsub' : (parts.map (Block.reline f')).Sublist d'.blocks) (hnodup' : (d'.blocks.map Block.name).Nodup)
    (hallowed : ∀ c ∈ parts, Stmt.allAllowed (insideOnly loads parts) c.body = true)
    (hload : loads = true → load = load') {b : Block} (hb : b ∈ parts)
    {globals : Bindings} (hglobals : ∀ r : Relabelling, relabel r globals = globals) {part : List Stmt}
    (hpart : Stmt.allAllowed (insideOnly loads parts) part = true) :
    relabel (alone (parts.map Block.name)) (renderPart load d (b.reline f) (Stmt.relineAll f part) globals) =
      relabel (alone (parts.map Block.name))
        (renderPart load' d' (b.reline f') (Stmt.relineAll f' part) globals) := by
  have hanswers : (alone (parts.map Block.name)).Answers load fun n => relabel (alone (parts.map Block.name)) (load n) :=
    ⟨fun _ => rfl, fun _ _ _ => rfl⟩
  have hanswers' (h : loads = true) :
      (alone (parts.map Block.name)).Answers load' fun n => relabel (alone (parts.map Block.name)) (load n) :=
    hload h ▸ hanswers
  have hparts (f : Nat → Nat) : (parts.map (Block.reline f)).map (Block.reline fun _ => 0) =
      parts.map (Block.reline fun _ => 0) := by
    rw [List.map_map]
    exact List.map_congr_left fun c _ => c.reline_reline
  -- of either document the parts are seen, without their lines, and nothing else
  have hshown : (d.blocks.filter fun c => (parts.map Block.name).contains c.name).map (Block.reline fun _ => 0) =
      (d'.blocks.filter fun c => (parts.map Block.name).contains c.name).map (Block.reline fun _ => 0) := by
    rw [filter_parts hsub hnodup, filter_parts hsub' hnodup', hparts, hparts]
  have hscope : (blockScope d (b.reline f) globals).relabel (alone (parts.map Block.name)) =
      (blockScope d' (b.reline f') globals).relabel (alone (parts.map Block.name)) :=
    blockScope_alone hname hescape rfl hshown
  rw [renderPart_relabel_alone hsub hnodup hallowed (fun _ => hanswers) hb hglobals hpart, hscope,
    renderPart_relabel_alone hsub' hnodup' hallowed hanswers' hb hglobals hpart]

/-! ## Blocks of two templates -/

/-- A block among some with different names is the one that is found by its name. -/
theorem find?_of_nodup {blocks : List Block} (hnodup : (blocks.map Block.name).Nodup) (hb : b ∈ blocks) :
    (blocks.find? fun c => c.name == b.name) = some b := by
  induction blocks with
  | nil => cases hb
  | cons c blocks ih =>
    obtain ⟨hc, hnodup⟩ := List.nodup_cons.mp hnodup
    rcases List.mem_cons.mp hb with rfl | hmem
    · exact List.find?_cons_of_pos (beq_self_eq_true _)
    · have hne : c.name ≠ b.name := fun heq => hc (heq ▸ List.mem_map_of_mem hmem)
      rw [List.find?_cons_of_neg (by simpa using hne), ih hnodup hmem]

/-- A fault without the lines that it tells. -/
def Fault.unlined (f : Fault) : Fault := f.relabel (alone [])

theorem Fault.relabel_alone (names : List String) (f : Fault) : f.relabel (alone names) = f.unlined := by
  cases f <;> rfl

/-- Renderings that are alike but for the lines write the same chunks and end alike. -/
theorem Trace.of_relabel_alone {names : List String} {x y : Trace Unit}
    (h : relabel (alone names) x = relabel (alone names) y) :
    x.chunks = y.chunks ∧ x.result.mapError Fault.unlined = y.result.mapError Fault.unlined := by
  obtain ⟨xchunks, xresult⟩ := x
  obtain ⟨ychunks, yresult⟩ := y
  obtain ⟨hchunks, hresult⟩ := Trace.mk.inj h
  refine ⟨hchunks, ?_⟩
  have hunlined (z : Eval Unit) : relabel (alone names) z = z.mapError Fault.unlined := by
    cases z with
    | ok a => rfl
    | error f => exact congrArg Except.error (f.relabel_alone names)
  rwa [hunlined, hunlined] at hresult

end RenderBench.Template

namespace RenderBench

open RenderBench.Template (Block Stmt Value Document Fault StandsIn blockText? loadDocument relabel alone normalizeLines lexemes
  wordsFrom lineEnds insideOnly renderPart_alone allAllowed_iff all_of_subset keeps_reline together_alike)

/-- A failure without the lines that its reason tells. -/
def RenderError.unlined (e : RenderError) : RenderError :=
  match e.cause with
  | .noSubTemplate _ => e
  | .failed f => ⟨e.name, .failed f.unlined⟩

/-- A template of a document in which a text stands. -/
def Template.Holds (t : Template) (text : List Char) (name : Option String) (escape : Bool) : Prop :=
  ∃ source, StandsIn text source ∧ Document.ofText name escape source = .ok t.document

variable {text : List Char} {b : Block} {name : Option String} {escape loads : Bool} {t u : Template} {items : Value}

theorem Template.Holds.name_escape (h : t.Holds text name escape) :
    t.document.name = name ∧ t.document.escape = escape := by
  obtain ⟨_, -, hread⟩ := h
  exact Template.ofText_name_escape hread

theorem hasSubTemplate_of_find {c : Block} (h : (t.document.blocks.find? fun c => c.name == b.name) = some c) :
    t.hasSubTemplate b.name = true := by
  have hname := List.find?_some h
  exact List.any_eq_true.mpr ⟨c, List.mem_of_find?_eq_some h, hname⟩

/-- A block is found in a template in which its text stands. -/
theorem find_of_holds (hb : blockText? text = some b) (ht : t.Holds text name escape) : ∃ f : Nat → Nat,
    (t.document.blocks.find? fun c => c.name == b.name) = some ((b.fold escape).reline f) ∧
      ((b.parts.map (Block.fold escape)).map (Block.reline f)).Sublist t.document.blocks ∧
        (t.document.blocks.map Block.name).Nodup := by
  obtain ⟨source, hin, hread⟩ := ht
  obtain ⟨f, hsub, hnodup⟩ := Template.parts_sublist hb hin hread
  exact ⟨f, Template.find?_of_nodup hnodup (hsub.subset List.mem_cons_self), hsub, hnodup⟩

/-- Renderings that are alike but for the lines leave a sink alike. -/
theorem into_alone {names : List String} {x y : Template.Trace Unit}
    (h : relabel (alone names) x = relabel (alone names) y) (s : Sink) :
    (x.into s).1 = (y.into s).1 ∧ (x.into s).2.mapError Fault.unlined = (y.into s).2.mapError Fault.unlined := by
  obtain ⟨hchunks, hresult⟩ := Template.Trace.of_relabel_alone h
  rw [Template.Trace.into, Template.Trace.into, hchunks]
  rcases s.writeAll y.chunks with ⟨s, _ | _⟩
  · exact ⟨rfl, rfl⟩
  · exact ⟨rfl, hresult⟩

/-- A block in two templates is rendered alike but for the lines. -/
theorem trace_alone {parts : List Block} {f f' : Nat → Nat} (hname : t.document.name = u.document.name)
    (hescape : t.document.escape = u.document.escape)
    (hsub : (parts.map (Block.reline f)).Sublist t.document.blocks) (hnodup : (t.document.blocks.map Block.name).Nodup)
    (hsub' : (parts.map (Block.reline f')).Sublist u.document.blocks)
    (hnodup' : (u.document.blocks.map Block.name).Nodup)
    (hallowed : ∀ c ∈ parts, Stmt.allAllowed (insideOnly loads parts) c.body = true)
    (hloads : loads = true → loadDocument t.files t.directory = loadDocument u.files u.directory) (hb : b ∈ parts)
    (hitems : items.Given) : relabel (alone (parts.map Block.name)) (t.trace (b.reline f) items) =
      relabel (alone (parts.map Block.name)) (u.trace (b.reline f') items) := by
  refine trace_together (together_alike (alone (parts.map Block.name))) (t := fun i => cond i t u)
    (b := fun i => b.reline (cond i f f')) (fun i => keeps_reline) (fun i => Stmt.relineAll_eq b.body)
    (fun s => s.allowed (insideOnly loads parts) = true) (fun _ _ => all_of_subset)
    (allAllowed_iff.mp (hallowed b hb)) (fun v _ => ?_) (fun ss items hss hitems => ?_) hitems
  · exact congrArg (fun escape => relabel _ (Template.Trace.write (v.written escape))) hescape
  · simp only [← Stmt.relineAll_eq]
    exact renderPart_alone hname hescape hsub hnodup hsub' hnodup' hallowed hloads hb
      (fun r => globals_relabel hitems r) (allAllowed_iff.mpr hss)

theorem mapError_failed (z : Template.Eval Unit) : (z.mapError (Template.failed b.name)).mapError RenderError.unlined =
    (z.mapError Fault.unlined).mapError (Template.failed b.name) := by
  cases z <;> rfl

/-- **A sub-template is rendered on its own.** Two templates in whose documents the text of one block stands have a
    sub-template of its name, and leave a sink with the same text when they render it for the same items. Both do that
    with success, or both fail for the same reason but for the lines that it tells. This is so if the block keeps to
    those inside it, and no other documents are asked for unless they are the same ones. -/
theorem renderInto_alone (hb : blockText? text = some b) (hinside : b.keepsInside loads = true)
    (ht : t.Holds text name escape) (hu : u.Holds text name escape)
    (hloads : loads = true → loadDocument t.files t.directory = loadDocument u.files u.directory)
    (hitems : items.Given) (s : Sink) :
    t.hasSubTemplate b.name = true ∧ u.hasSubTemplate b.name = true ∧
    (t.renderInto s b.name items).1 = (u.renderInto s b.name items).1 ∧
    (t.renderInto s b.name items).2.mapError RenderError.unlined =
      (u.renderInto s b.name items).2.mapError RenderError.unlined := by
  obtain ⟨f, hfind, hsub, hnodup⟩ := find_of_holds hb ht
  obtain ⟨f', hfind', hsub', hnodup'⟩ := find_of_holds hb hu
  have hname : t.document.name = u.document.name := ht.name_escape.1.trans hu.name_escape.1.symm
  have hescape : t.document.escape = u.document.escape := ht.name_escape.2.trans hu.name_escape.2.symm
  have hparts : (b.parts.map (Block.fold escape)).map Block.name = b.parts.map Block.name := by
    rw [List.map_map]
    rfl
  have hallowed : ∀ c ∈ b.parts.map (Block.fold escape),
      Stmt.allAllowed (insideOnly loads (b.parts.map (Block.fold escape))) c.body = true := by
    intro c hc
    obtain ⟨part, hpart, rfl⟩ := List.mem_map.mp hc
    rw [insideOnly, hparts]
    exact Stmt.allAllowed_fold part.body (List.all_eq_true.mp hinside part hpart)
  have htrace := trace_alone hname hescape hsub hnodup hsub' hnodup' hallowed hloads
    (List.mem_map_of_mem List.mem_cons_self) hitems
  obtain ⟨hsink, hresult⟩ := into_alone htrace s
  rw [renderInto_of_find hfind, renderInto_of_find hfind']
  refine ⟨hasSubTemplate_of_find hfind, hasSubTemplate_of_find hfind', hsink, ?_⟩
  rw [mapError_failed, mapError_failed]
  exact congrArg (Except.mapError (Template.failed b.name)) hresult

/-! ## A crowded page, and a reason that tells a line -/

/-- A text that is cut out of a source stands in it if its words are those of the source from one on. -/
theorem standsIn_of_drop (before after : List Char) (k : Nat) {source : String}
    (hsource : normalizeLines source.toList = before ++ text ++ after)
    (hwords : (lexemes source).drop k = wordsFrom before.length (1 + lineEnds before) (text ++ after)) :
    StandsIn text source :=
  ⟨before, after, (lexemes source).take k, hsource, by rw [← hwords, List.take_append_drop]⟩

theorem holds_of_parse {files : FileStore} {source label : String} (hin : StandsIn text source)
    (h : Template.parse files source label = .ok t) : t.Holds text none true :=
  ⟨source, hin, ofText_of_parse h⟩

def tally : String :=
  "\x7b% block table %\x7d\x7b\x7b items|length \x7d\x7d\x7b\x7b total \x7d\x7d\x7b% endblock %\x7d"

/-- What stands before a block and means nothing to it: an expression that fails, and the variable of a loop. -/
def commotion : String := "\x7b\x7b 1//0 \x7d\x7d\n\x7b% for total in items %\x7d"

def crowded : String := commotion ++ tally ++ "\x7b% endfor %\x7d"

theorem exists_of_outcome {files : FileStore} {source block : String} {o : String ⊕ String}
    (h : (Template.parse files source).map (fun t => Template.outcome (t.render block items)) = .ok o) :
    ∃ t, Template.parse files source = .ok t ∧ Template.outcome (t.render block items) = o := by
  cases hparse : Template.parse files source with
  | error e =>
    rw [hparse] at h
    cases h
  | ok t =>
    rw [hparse] at h
    exact ⟨t, rfl, Except.ok.inj h⟩

theorem renderInto_alone_tally : ∃ t u, Template.parse FileStore.empty crowded = .ok t ∧
    Template.parse FileStore.empty tally = .ok u ∧ Template.outcome (t.render "table" (.list [])) = .inl "0" ∧
    ∀ items, items.Given → ∀ s, (t.renderInto s "table" items).1 = (u.renderInto s "table" items).1 ∧
      (t.renderInto s "table" items).2.mapError RenderError.unlined =
        (u.renderInto s "table" items).2.mapError RenderError.unlined := by
  have hblock : (blockText? tally.toList).map (fun b => (b.name, b.keepsInside false)) = some ("table", true) := by
    decide +kernel
  obtain ⟨b, hb, hnamed⟩ := Option.map_eq_some_iff.mp hblock
  obtain ⟨hname, hinside⟩ : b.name = "table" ∧ b.keepsInside false = true := Prod.mk.inj hnamed
  obtain ⟨t, ht, hpage⟩ := exists_of_outcome (show (Template.parse FileStore.empty crowded).map (fun t =>
    Template.outcome (t.render "table" (.list []))) = .ok (.inl "0") by decide +kernel)
  obtain ⟨u, hu⟩ := exists_ok_of_isOk (show (Template.parse FileStore.empty tally).isOk by decide +kernel)
  have hcrowded : StandsIn tally.toList crowded := by
    refine standsIn_of_drop commotion.toList "\x7b% endfor %\x7d".toList 12 ?_ ?_ <;> decide +kernel
  have htally : StandsIn tally.toList tally := by
    refine standsIn_of_drop [] [] 0 ?_ ?_ <;> decide +kernel
  refine ⟨t, u, ht, hu, hpage, fun items hitems s => ?_⟩
  have hsame := renderInto_alone hb hinside (holds_of_parse hcrowded ht) (holds_of_parse htally hu) nofun hitems s
  exact hname ▸ hsame.2.2

theorem reason_tells_line : ∃ b t u, blockText? shownCondition.toList = some b ∧ b.keepsInside false = true ∧
    Template.parse FileStore.empty shownCondition = .ok t ∧ t.Holds shownCondition.toList none true ∧
    Template.parse FileStore.empty ("\n" ++ shownCondition) = .ok u ∧ u.Holds shownCondition.toList none true ∧
    Template.outcome (t.render b.name (.list [])) ≠ Template.outcome (u.render b.name (.list [])) := by
  have hblock : (blockText? shownCondition.toList).map (fun b => (b.name, b.keepsInside false)) =
      some ("table", true) := by decide +kernel
  obtain ⟨b, hb, hnamed⟩ := Option.map_eq_some_iff.mp hblock
  obtain ⟨hname, hinside⟩ : b.name = "table" ∧ b.keepsInside false = true := Prod.mk.inj hnamed
  obtain ⟨t, ht, hreason⟩ := exists_of_outcome (show (Template.parse FileStore.empty shownCondition).map (fun t =>
    Template.outcome (t.render "table" (.list []))) = .ok (.inr (Template.Fault.message
      (.absent (.alternative 1 none)))) by decide +kernel)
  obtain ⟨u, hu, hreason'⟩ := exists_of_outcome (show (Template.parse FileStore.empty ("\n" ++ shownCondition)).map
    (fun t => Template.outcome (t.render "table" (.list []))) = .ok (.inr (Template.Fault.message
      (.absent (.alternative 2 none)))) by decide +kernel)
  have hfirst : StandsIn shownCondition.toList shownCondition := by
    refine standsIn_of_drop [] [] 0 ?_ ?_ <;> decide +kernel
  have hsecond : StandsIn shownCondition.toList ("\n" ++ shownCondition) := by
    refine standsIn_of_drop ['\n'] [] 1 ?_ ?_ <;> decide +kernel
  refine ⟨b, t, u, hb, hinside, ht, holds_of_parse hfirst ht, hu, holds_of_parse hsecond hu, ?_⟩
  rw [hname, hreason, hreason']
  decide +kernel

end RenderBench
