import RenderBench.Proofs.Template.Loading
import RenderBench.Proofs.Template.MarkupName
import RenderBench.Proofs.Template.Unmarked.Execute
import RenderBench.Proofs.Text.Unescape

/-!
# `Proofs.Template.Escaped` — escaped and plain renderings of one text

A text can be read as a template of markup or as a plain one. If it makes no markup itself, the two are one document
but for its name and for the escaping, and every rendering of the one is the escaped form of the rendering of the other:
the same text of the document, and each output escaped by itself. Which text is that of the document is told by other
text in its place.

## Contents
- `discreet_of_unmarked`, `discreet_retext`: such documents do not look at the template itself.
- `makesNoMarkup`, `Reading`, `ofText_unmarked`: texts that make no markup, and how they are read.
- `keeps_retext`, `together_uniform`: blocks that take items away.
- `trace_titled`, `trace_uniform`: the name of a document, and the modes.
- `Template.EscapedForm`, `escapedForm_of_document`: every rendering, chunk by chunk.
- `self_tells_name`: texts that tell the name of the file or its directory.
-/

namespace RenderBench

namespace Template

variable {embeds : Bool}

/-! ## The template itself -/

mutual

theorem discreet_of_unmarked : ∀ e : Expr, e.unmarked → e.discreet
  | .const _, _ => rfl
  | .name _, h => h
  | .captured, _ => rfl
  | .list es, h | .tuple es, h | .concat es, h => allDiscreet_of_unmarked es h
  | .dict ks vs, h => by
    obtain ⟨hks, hvs⟩ := Bool.and_eq_true_iff.mp h
    exact both_unmarked (allDiscreet_of_unmarked ks hks) (allDiscreet_of_unmarked vs hvs)
  | .attribute e attr, h => by
    have he := discreet_of_unmarked e h
    cases e <;> first | rfl | exact he
  | .item e i, h => by
    obtain ⟨he, hi⟩ := Bool.and_eq_true_iff.mp h
    exact both_unmarked (discreet_of_unmarked e he) (discreet_of_unmarked i hi)
  | .slice a b c, h => by
    obtain ⟨ha, hbc⟩ := Bool.and_eq_true_iff.mp h
    obtain ⟨hb, hc⟩ := Bool.and_eq_true_iff.mp hbc
    exact both_unmarked (discreet_of_unmarked a ha)
      (both_unmarked (discreet_of_unmarked b hb) (discreet_of_unmarked c hc))
  | .call f args _ values, h => by
    obtain ⟨hf, hrest⟩ := Bool.and_eq_true_iff.mp h
    obtain ⟨hargs, hvalues⟩ := Bool.and_eq_true_iff.mp hrest
    exact both_unmarked (discreet_of_unmarked f hf)
      (both_unmarked (allDiscreet_of_unmarked args hargs) (allDiscreet_of_unmarked values hvalues))
  | .filter _ e _ args _ values, h => by
    obtain ⟨-, hrest⟩ := Bool.and_eq_true_iff.mp h
    obtain ⟨he, hrest⟩ := Bool.and_eq_true_iff.mp hrest
    obtain ⟨hargs, hvalues⟩ := Bool.and_eq_true_iff.mp hrest
    exact both_unmarked (discreet_of_unmarked e he)
      (both_unmarked (allDiscreet_of_unmarked args hargs) (allDiscreet_of_unmarked values hvalues))
  | .test _ e _ args _ values, h => by
    obtain ⟨he, hrest⟩ := Bool.and_eq_true_iff.mp h
    obtain ⟨hargs, hvalues⟩ := Bool.and_eq_true_iff.mp hrest
    exact both_unmarked (discreet_of_unmarked e he)
      (both_unmarked (allDiscreet_of_unmarked args hargs) (allDiscreet_of_unmarked values hvalues))
  | .unary _ e, h | .spread e, h | .spreadNamed e, h => discreet_of_unmarked e h
  | .binary _ a b, h | .and a b, h | .or a b, h => by
    obtain ⟨ha, hb⟩ := Bool.and_eq_true_iff.mp h
    exact both_unmarked (discreet_of_unmarked a ha) (discreet_of_unmarked b hb)
  | .compare e _ es, h => by
    obtain ⟨he, hes⟩ := Bool.and_eq_true_iff.mp h
    exact both_unmarked (discreet_of_unmarked e he) (allDiscreet_of_unmarked es hes)
  | .ifElse t a b, h => by
    obtain ⟨ht, hab⟩ := Bool.and_eq_true_iff.mp h
    obtain ⟨ha, hb⟩ := Bool.and_eq_true_iff.mp hab
    exact both_unmarked (discreet_of_unmarked t ht)
      (both_unmarked (discreet_of_unmarked a ha) (discreet_of_unmarked b hb))
  | .ifOnly _ t a, h => by
    obtain ⟨ht, ha⟩ := Bool.and_eq_true_iff.mp h
    exact both_unmarked (discreet_of_unmarked t ht) (discreet_of_unmarked a ha)

theorem allDiscreet_of_unmarked : ∀ es : List Expr, Expr.allUnmarked es → Expr.allDiscreet es
  | [], _ => rfl
  | e :: es, h => by
    obtain ⟨he, hes⟩ := Bool.and_eq_true_iff.mp h
    exact both_unmarked (discreet_of_unmarked e he) (allDiscreet_of_unmarked es hes)

end

theorem pieces_discreet {pieces : List Piece} (h : pieces.all Piece.unmarked) : pieces.all Piece.discreet := by
  rw [List.all_eq_true] at h ⊢
  intro p hp
  have hunmarked := h p hp
  cases p with
  | text s => rfl
  | value e => exact discreet_of_unmarked e hunmarked

theorem condition_discreet {condition : Option Expr} (h : condition.all Expr.unmarked) :
    condition.all Expr.discreet := by
  cases condition with
  | none => rfl
  | some c => exact discreet_of_unmarked c h

mutual

/-- What makes no markup does not look at the template itself. -/
theorem stmt_discreet_of_unmarked : ∀ st : Stmt, st.unmarked embeds → st.discreet true embeds
  | .output _, h => pieces_discreet h
  | .forLoop _ source condition _ body otherwise, h => by
    obtain ⟨hsource, hrest⟩ := Bool.and_eq_true_iff.mp h
    obtain ⟨hcondition, hrest⟩ := Bool.and_eq_true_iff.mp hrest
    obtain ⟨hbody, hotherwise⟩ := Bool.and_eq_true_iff.mp hrest
    exact both_unmarked (discreet_of_unmarked source hsource) (both_unmarked (condition_discreet hcondition)
      (both_unmarked (stmts_discreet_of_unmarked body hbody) (stmts_discreet_of_unmarked otherwise hotherwise)))
  | .branch test body otherwise, h => by
    obtain ⟨htest, hrest⟩ := Bool.and_eq_true_iff.mp h
    obtain ⟨hbody, hotherwise⟩ := Bool.and_eq_true_iff.mp hrest
    exact both_unmarked (discreet_of_unmarked test htest)
      (both_unmarked (stmts_discreet_of_unmarked body hbody) (stmts_discreet_of_unmarked otherwise hotherwise))
  | .assign _ value, h => discreet_of_unmarked value h
  | .scope _ values body, h => by
    obtain ⟨hvalues, hbody⟩ := Bool.and_eq_true_iff.mp h
    exact both_unmarked (allDiscreet_of_unmarked values hvalues) (stmts_discreet_of_unmarked body hbody)
  | .block _ _ _ _ _, _ => rfl
  | .inherit _ _, _ => rfl
  | .embed source _ _, h => by
    obtain ⟨hembeds, hsource⟩ := Bool.and_eq_true_iff.mp h
    exact both_unmarked hembeds (discreet_of_unmarked source hsource)
  | .capture _ _ _, h | .definition _ _ _ _, h | .callBlock _ _ _ _, h | .filterBlock _ _, h | .escaping _ _, h
  | .importing _ _, h => nomatch h

theorem stmts_discreet_of_unmarked : ∀ ss : List Stmt, Stmt.allUnmarked embeds ss → Stmt.allDiscreet true embeds ss
  | [], _ => rfl
  | st :: ss, h => by
    obtain ⟨hst, hss⟩ := Bool.and_eq_true_iff.mp h
    exact both_unmarked (stmt_discreet_of_unmarked st hst) (stmts_discreet_of_unmarked ss hss)

end

mutual

theorem discreet_retext (f : String → String) (inherits : Bool) : ∀ st : Stmt,
    (st.retext f).discreet inherits embeds = st.discreet inherits embeds
  | .output pieces => by
    rw [Stmt.retext, Stmt.discreet, List.all_map, Stmt.discreet]
    refine congrArg pieces.all (funext fun p => ?_)
    cases p <;> rfl
  | .forLoop _ _ _ _ body otherwise | .branch _ body otherwise => by
    simp only [Stmt.retext, Stmt.discreet, allDiscreet_retext f inherits body, allDiscreet_retext f inherits otherwise]
  | .capture _ _ body | .scope _ _ body | .definition _ _ _ body | .callBlock _ _ _ body | .filterBlock _ body
  | .escaping _ body => by simp only [Stmt.retext, Stmt.discreet, allDiscreet_retext f inherits body]
  | .assign _ _ | .block _ _ _ _ _ | .inherit _ _ | .embed _ _ _ | .importing _ _ => rfl

theorem allDiscreet_retext (f : String → String) (inherits : Bool) : ∀ ss : List Stmt,
    Stmt.allDiscreet inherits embeds (Stmt.retextAll f ss) = Stmt.allDiscreet inherits embeds ss
  | [] => rfl
  | st :: ss => congrArg₂ and (discreet_retext f inherits st) (allDiscreet_retext f inherits ss)

end

/-! ## Blocks that take items away -/

section Taking

variable {f : String → String}

mutual

theorem binds_retext : ∀ st : Stmt, (st.retext f).binds = st.binds
  | .branch _ body otherwise => by
    rw [Stmt.retext, Stmt.binds, Stmt.binds, anyBinds_retext body, anyBinds_retext otherwise]
  | .assign _ _ | .capture _ _ _ | .definition _ _ _ _ | .importing _ _ | .output _ | .forLoop _ _ _ _ _ _
  | .scope _ _ _ | .block _ _ _ _ _ | .inherit _ _ | .embed _ _ _ | .callBlock _ _ _ _ | .filterBlock _ _
  | .escaping _ _ => rfl

theorem anyBinds_retext : ∀ ss : List Stmt, Stmt.anyBinds (Stmt.retextAll f ss) = Stmt.anyBinds ss
  | [] => rfl
  | st :: ss => by rw [Stmt.retextAll, Stmt.anyBinds, Stmt.anyBinds, binds_retext st, anyBinds_retext ss]

end

/-- What takes items does so with any text around it. -/
theorem keeps_retext : Stmt.Keeps (Stmt.retext f) (Piece.retext f) where
  pieces st := by cases st <;> rfl
  take p := by cases p <;> rfl
  binds := binds_retext

theorem retextAll_eq (ss : List Stmt) : Stmt.retextAll f ss = ss.map (Stmt.retext f) := by
  induction ss with
  | nil => rfl
  | cons st ss ih => rw [Stmt.retextAll, ih, List.map_cons]

end Taking

/-- Renderings in all modes that write the same parts belong together. -/
theorem together_uniform : Together (Uniform embeds fixed fun (_ : Unit) => True) where
  done := uniform_pure () trivial
  missing := uniform_fail .noItems
  andThen := Uniform.andThen
  ends h := by
    obtain ⟨chunks, r, -, -, h⟩ := h
    cases r with
    | ok u => exact .inl fun μ => congrArg Trace.result (h μ)
    | error f => exact .inr fun μ => ⟨f, congrArg Trace.result (h μ)⟩

theorem allUnmarked_iff : ∀ {ss : List Stmt}, Stmt.allUnmarked embeds ss ↔ ∀ st ∈ ss, st.unmarked embeds
  | [] => ⟨nofun, fun _ => rfl⟩
  | st :: ss => by rw [Stmt.allUnmarked, Bool.and_eq_true, allUnmarked_iff, List.forall_mem_cons]

/-- Statements that make no markup and do not inherit, one by one. -/
theorem inert_iff {ss : List Stmt} : Stmt.Inert embeds ss ↔ ∀ st ∈ ss, st.unmarked embeds ∧ st.discreet false embeds := by
  rw [Stmt.Inert, allUnmarked_iff, allDiscreet_iff]
  exact ⟨fun h st hst => ⟨h.1 st hst, h.2 st hst⟩, fun h => ⟨fun st hst => (h st hst).1, fun st hst => (h st hst).2⟩⟩

/-! ## Readings -/

/-- Whether the statements of a text, if it can be read, make no markup. -/
def makesNoMarkup (embeds : Bool) (source : String) : Bool :=
  match parseStatements (lexemes source) with
  | .ok statements => Stmt.allUnmarked embeds statements
  | .error _ => true

/-- **A text that makes no markup** is the same document whether or not its output is to be escaped, and under any
    name. -/
theorem ofText_unmarked {source : String} (h : makesNoMarkup embeds source) (title : Option String) (escape : Bool) :
    Document.ofText title escape source =
      (Document.ofText none false source).map fun d => { d with name := title, escape } := by
  -- the name first: it is told in failures only
  have htitled : Document.ofText title escape source =
      (Document.ofText none escape source).map fun d => { d with name := title } := by
    cases title with
    | none =>
      cases hread : Document.ofText none escape source with
      | error f => rfl
      | ok d =>
        have hname := (ofText_name_escape hread).1
        exact congrArg Except.ok (by rw [← hname])
    | some name =>
      rw [ofText_named]
      cases hread : Document.ofText none escape source with
      | error f => rfl
      | ok d =>
        have hname := (ofText_name_escape hread).1
        refine congrArg Except.ok ?_
        rw [relabel_naming, hname]
        rfl
  rw [htitled]
  unfold Document.ofText
  unfold makesNoMarkup at h
  cases hparse : parseStatements (lexemes source) with
  | error f => rfl
  | ok statements =>
    rw [hparse] at h
    show (Document.ofStatements none escape statements).map _ = (Document.ofStatements none false statements).map _
    -- and then the mode: nothing is folded to other text in it
    rw [ofStatements_flag none escape h]
    cases Document.ofStatements none false statements <;> rfl

/-- The blocks of such a document make no markup and do not inherit. -/
theorem inert_of_ofText {source : String} (h : makesNoMarkup embeds source) {d : Document}
    (hd : Document.ofText none false source = .ok d) : ∀ b ∈ d.blocks, Stmt.Inert embeds b.body := by
  obtain ⟨statements, hparse, hd⟩ := exists_of_bind_ok hd
  unfold makesNoMarkup at h
  rw [hparse] at h
  have hblocks : ∀ b ∈ d.blocks, Stmt.allUnmarked embeds b.body := by
    rw [ofStatements_eq] at hd
    obtain ⟨_, -, hd⟩ := exists_of_bind_ok hd
    cases hd
    exact (documentBlocks_same false h).2
  have hdiscreet := blocks_discreet hd fun b hb => stmts_discreet_of_unmarked b.body (hblocks b hb)
  exact fun b hb => ⟨hblocks b hb, hdiscreet b hb⟩

end Template

open Template (Value Stmt Block Fault Document Part OwnParts chunkText Mode makesNoMarkup loadDocument EndsAsMarkup
  isMarkupName_iff unescapeText escapeText Harmless NamedUnmarked unmarked_ofDatum allDiscreet_retext answers_naming
  renderPart_uniform Uniform fixed together_uniform writeValue_uniform keeps_retext retextAll_eq inert_iff naming
  relabel_naming ofText_unmarked ofText_name_escape inert_of_ofText harmless_escapeText unescapeText_escapeText)

/-- **A text is read as a template**, and its output is escaped or not: from a file that holds it, by the end of the
    name, or as it is. -/
inductive Reading (source : String) : Bool → Except LoadFailure Template → Prop
  | markup {files : FileStore} {path : String} (hfiles : files.IsTree)
      (hfile : files.readFile? (FilePath.ofString path) = some (encodeUtf8 source.toList))
      (hname : EndsAsMarkup (FilePath.ofString path).name) : Reading source true (Template.load files path)
  | plain {files : FileStore} {path : String} (hfiles : files.IsTree)
      (hfile : files.readFile? (FilePath.ofString path) = some (encodeUtf8 source.toList))
      (hname : ¬EndsAsMarkup (FilePath.ofString path).name) : Reading source false (Template.load files path)
  | text (files : FileStore) (label : String) : Reading source true (Template.parse files source label)

/-- A reading is the document of the text under some title. -/
theorem Reading.eq {source : String} {escape : Bool} {x : Except LoadFailure Template} (h : Reading source escape x) :
    ∃ (title : Option String) (name path : String) (files : FileStore) (directory : FilePath),
      x = ((Document.ofText title escape source).map fun document => ⟨name, document, files, directory⟩).mapError
        (LoadFailure.ofFault path) := by
  cases h with
  | text files label => exact ⟨none, label, label, files, FilePath.ofString ".", parse_eq files source label⟩
  | markup hfiles hfile hname =>
    have hload := load_text hfiles hfile
    rw [(isMarkupName_iff _).mpr hname] at hload
    exact ⟨_, _, _, _, _, hload⟩
  | plain hfiles hfile hname =>
    have hload := load_text hfiles hfile
    rw [Bool.eq_false_iff.mpr fun hmarkup => hname ((isMarkupName_iff _).mp hmarkup)] at hload
    exact ⟨_, _, _, _, _, hload⟩

/-! ## Renderings -/

/-- A template with other text in place of its own. -/
def Template.retext (f : String → String) (t : Template) : Template := { t with document := t.document.retext f }

/-- **One template is the escaped form of another one.** Whatever a name stands for, what the two write is made of the
    same parts in the same chunks. Parts that are text of the document are the same in both, and other text in its place
    changes them and nothing else. Parts that are outputs are escaped, each by itself, in the one, and plain in the
    other. There are parts from other documents only where these are included, and then they are the same. And the two
    renderings end in the same way, well or not. -/
structure Template.EscapedForm (embeds : Bool) (t u : Template) : Prop where
  subTemplates : t.subTemplates = u.subTemplates
  course : ∀ name items, items.Given → ∃ chunks : List (List Part), OwnParts embeds chunks ∧ ∀ f : String → String,
    ((t.retext f).course name items).1 = chunks.map (chunkText ⟨f, true⟩) ∧
    ((u.retext f).course name items).1 = chunks.map (chunkText ⟨f, false⟩) ∧
    ((t.retext f).course name items).2.isOk = ((u.retext f).course name items).2.isOk

theorem Template.retext_id (t : Template) : t.retext id = t := by
  have hbody := Template.Stmt.retextAll_id t.document.body
  have hblocks : t.document.blocks.map (Template.Block.retext id) = t.document.blocks :=
    (List.map_congr_left fun b _ => b.retext_id).trans (List.map_id _)
  rw [Template.retext, Document.retext, hbody, hblocks]

variable {embeds escape : Bool} {source name : String} {title : Option String} {items : Value} {d : Document}
  {t u : Template} {b : Template.Block}

theorem unmarked_of_given (h : items.Given) : items.Unmarked := by
  induction h with
  | item i => exact .item i
  | datum d => exact unmarked_ofDatum d
  | list _ ih => exact .list ih

theorem unmarked_globals (h : items.Given) : NamedUnmarked (Template.globals items) := by
  intro p hp
  rcases List.mem_cons.mp hp with rfl | hp
  · exact unmarked_of_given h
  · rw [List.mem_singleton.mp hp]
    exact .rangeFunction

/-- A template with a document that has no title yet, in a mode. -/
def Template.untitled (t : Template) (d : Document) (μ : Mode) : Template := { t with document := d.view μ }

/-- A block of a template, from the document that it has without its title. -/
theorem trace_titled (hname : d.name = none) (hblocks : ∀ b ∈ d.blocks, Stmt.Inert embeds b.body)
    (ht : t.document = { d with name := title, escape }) (hb : b ∈ d.blocks) (hitems : items.Given)
    (f : String → String) : ∃ told : Fault → Fault, (t.retext f).trace (b.retext f) items =
      ⟨((t.untitled d ⟨f, escape⟩).trace (b.retext f) items).chunks,
        ((t.untitled d ⟨f, escape⟩).trace (b.retext f) items).result.mapError told⟩ := by
  have hdiscreet : ∀ b' ∈ (d.view ⟨f, escape⟩).blocks, Stmt.allDiscreet false embeds b'.body := by
    intro b' hb'
    obtain ⟨b, hb, rfl⟩ := List.mem_map.mp hb'
    exact (allDiscreet_retext f false b.body).trans (hblocks b hb).2
  have hmem : b.retext f ∈ (d.view ⟨f, escape⟩).blocks := List.mem_map_of_mem hb
  -- text in place of that of the document, in a document that still has its title
  have hdocument : (t.retext f).document = { d.view ⟨f, escape⟩ with name := title } := by
    show t.document.retext f = _
    rw [ht]
    rfl
  have huntitled : (d.view ⟨f, escape⟩).name = none := hname
  cases title with
  | none =>
    have hsame : t.retext f = t.untitled d ⟨f, escape⟩ := by
      have hview : (t.retext f).document = d.view ⟨f, escape⟩ := by rw [hdocument, ← huntitled]
      exact congrArg (fun document => { t with document }) hview
    refine ⟨id, ?_⟩
    rw [hsame]
    generalize (t.untitled d ⟨f, escape⟩).trace (b.retext f) items = trace
    obtain ⟨chunks, result⟩ := trace
    cases result <;> rfl
  | some name =>
    -- giving a name is a relabelling, and the blocks do not ask for the name
    have hnamed : (t.retext f).document = (t.untitled d ⟨f, escape⟩).document.relabel (naming name) := by
      show _ = (d.view ⟨f, escape⟩).relabel (naming name)
      rw [hdocument, relabel_naming, huntitled]
      rfl
    refine ⟨Fault.relabel (naming name), ?_⟩
    rw [trace_named hnamed (fun _ => answers_naming name t.files t.directory) hdiscreet hitems hmem]
    generalize (t.untitled d ⟨f, escape⟩).trace (b.retext f) items = trace
    obtain ⟨chunks, result⟩ := trace
    cases result <;> rfl

/-- **A block in all modes** is rendered from the same parts, if its document's blocks make no markup and other
    documents, if they include any, are the same. -/
theorem trace_uniform (ts : Mode → Template) (hts : ∀ μ, (ts μ).document = d.view μ)
    (hloads : embeds → ∀ μ ν,
      loadDocument (ts μ).files (ts μ).directory = loadDocument (ts ν).files (ts ν).directory)
    (hblocks : ∀ b ∈ d.blocks, Stmt.Inert embeds b.body) (hb : b ∈ d.blocks) (hitems : items.Given) :
    Uniform embeds fixed (fun _ => True) fun μ => (ts μ).trace (b.retext μ.literal) items := by
  refine trace_together together_uniform (fun μ => keeps_retext) (fun μ => retextAll_eq b.body)
    (fun st => st.unmarked embeds ∧ st.discreet false embeds) (fun pieces ps hsub h => ?_)
    (inert_iff.mp (hblocks b hb)) (fun v hv => ?_) (fun ss items hss hitems => ?_) hitems
  · exact ⟨Template.all_of_subset hsub h.1, Template.all_of_subset hsub h.2⟩
  · have hescape (μ : Mode) : (ts μ).document.escape = μ.escape := by rw [hts]; rfl
    simp only [hescape]
    exact writeValue_uniform (unmarked_of_given hv)
  · simp only [Template.part, hts, ← retextAll_eq]
    exact renderPart_uniform hloads hblocks b (unmarked_globals hitems) (inert_iff.mpr hss)

/-- What a name stands for, with other text in place of that of the document. -/
theorem find_retext (ht : t.document = { d with name := title, escape }) (f : String → String) :
    ((t.retext f).document.blocks.find? fun b => b.name == name) =
      (d.blocks.find? fun b => b.name == name).map (Block.retext f) := by
  show ((t.document.blocks.map (Block.retext f)).find? fun b => b.name == name) = _
  rw [ht]
  exact List.find?_map ..

theorem course_missing (ht : t.document = { d with name := title, escape })
    (hfind : (d.blocks.find? fun b => b.name == name) = none) (f : String → String) :
    (t.retext f).course name items = ([], .error ⟨name, .noSubTemplate t.name⟩) := by
  rw [Template.course, find_retext ht f, hfind]
  rfl

/-- The course of a block, from what rendering it in a mode writes. -/
theorem course_titled (hname : d.name = none) (hblocks : ∀ b ∈ d.blocks, Stmt.Inert embeds b.body)
    (ht : t.document = { d with name := title, escape })
    (hfind : (d.blocks.find? fun b => b.name == name) = some b) (hitems : items.Given) (f : String → String)
    {chunks : List String} {r : Template.Eval Unit}
    (hrender : (t.untitled d ⟨f, escape⟩).trace (b.retext f) items = ⟨chunks, r⟩) :
    ((t.retext f).course name items).1 = chunks ∧ ((t.retext f).course name items).2.isOk = r.isOk := by
  obtain ⟨told, htrace⟩ := trace_titled hname hblocks ht (List.mem_of_find?_eq_some hfind) hitems f
  rw [hrender] at htrace
  have hfound : ((t.retext f).document.blocks.find? fun b => b.name == name) = some (b.retext f) := by
    rw [find_retext ht f, hfind]
    rfl
  rw [Template.course, hfound]
  show ((t.retext f).trace (b.retext f) items).chunks = chunks ∧
    (((t.retext f).trace (b.retext f) items).result.mapError (Template.failed name)).isOk = r.isOk
  rw [htrace]
  refine ⟨rfl, ?_⟩
  cases r <;> rfl

/-- One document under two titles, escaped under the first and plain under the second. -/
theorem escapedForm_of_document {title' : Option String} (hname : d.name = none)
    (hblocks : ∀ b ∈ d.blocks, Stmt.Inert embeds b.body) (ht : t.document = { d with name := title, escape := true })
    (hu : u.document = { d with name := title', escape := false })
    (hloads : embeds → loadDocument t.files t.directory = loadDocument u.files u.directory) :
    t.EscapedForm embeds u := by
  have hsub : t.document.blocks = u.document.blocks := by rw [ht, hu]
  refine ⟨by rw [Template.subTemplates, hsub, Template.subTemplates], fun name items hitems => ?_⟩
  cases hfind : d.blocks.find? fun b => b.name == name with
  | none =>
    refine ⟨[], List.forall_mem_nil _, fun f => ?_⟩
    rw [course_missing ht hfind f, course_missing hu hfind f]
    exact ⟨rfl, rfl, rfl⟩
  | some b =>
    -- in every mode the documents are looked for where the template of that mode looks for them
    let ts (μ : Mode) : Template := (if μ.escape then t else u).untitled d μ
    have hsame : embeds → ∀ μ ν,
        loadDocument (ts μ).files (ts μ).directory = loadDocument (ts ν).files (ts ν).directory := by
      intro hembeds μ ν
      have hloaded (μ : Mode) : loadDocument (ts μ).files (ts μ).directory = loadDocument u.files u.directory := by
        show loadDocument (if μ.escape then t else u).files (if μ.escape then t else u).directory = _
        split
        · exact hloads hembeds
        · rfl
      rw [hloaded, hloaded]
    obtain ⟨chunks, r, hchunks, -, huniform⟩ := trace_uniform ts (fun _ => rfl) hsame hblocks
      (List.mem_of_find?_eq_some hfind) hitems
    refine ⟨chunks, hchunks, fun f => ?_⟩
    obtain ⟨hescaped, hends⟩ := course_titled hname hblocks ht hfind hitems f (huniform ⟨f, true⟩)
    obtain ⟨hplain, hends'⟩ := course_titled hname hblocks hu hfind hitems f (huniform ⟨f, false⟩)
    refine ⟨hescaped, hplain, hends.trans (Eq.trans ?_ hends'.symm)⟩
    cases r <;> rfl

/-- **A text that makes no markup, read as markup and as plain text.** There is a template of both or of none, for the
    same reason. Then the first template is the escaped form of the second one, if the documents that they ask for,
    where they ask for any, are the same. And a text that is escaped could not be taken for markup, and is given back
    by unescaping. -/
theorem escapedForm_of_readings (hsource : makesNoMarkup embeds source) {x y : Except LoadFailure Template}
    (hx : Reading source true x) (hy : Reading source false y) :
    Template.refusal? x = Template.refusal? y ∧
    (∀ t u, x = .ok t → y = .ok u →
      (embeds → loadDocument t.files t.directory = loadDocument u.files u.directory) → t.EscapedForm embeds u) ∧
    ∀ s, Harmless (escapeText s) ∧ unescapeText (escapeText s) = s := by
  obtain ⟨title, label, path, files, directory, rfl⟩ := hx.eq
  obtain ⟨title', label', path', files', directory', rfl⟩ := hy.eq
  rw [ofText_unmarked hsource title true, ofText_unmarked hsource title' false]
  cases hread : Document.ofText none false source with
  | error f =>
    have hrefusal := (refusal_ofFault path f).trans (refusal_ofFault path' f).symm
    exact ⟨congrArg some hrefusal, nofun, fun s => ⟨harmless_escapeText s, unescapeText_escapeText s⟩⟩
  | ok d =>
    refine ⟨rfl, ?_, fun s => ⟨harmless_escapeText s, unescapeText_escapeText s⟩⟩
    rintro _ _ ⟨⟩ ⟨⟩ hloads
    exact escapedForm_of_document (ofText_name_escape hread).1 (inert_of_ofText hsource hread) rfl rfl hloads

/-! ## A page of two names, and texts that tell them -/

/-- Two files that hold the same text. -/
def twoPages (path path' text : String) : FileStore := (onePage path text).place path' (.file (encodeUtf8 text.toList))

theorem escapedForm_greeting :
    ∃ t u, Template.load (twoPages "t.html" "t.txt" greeting) "t.html" = .ok t ∧
      Template.load (twoPages "t.html" "t.txt" greeting) "t.txt" = .ok u ∧ t.EscapedForm false u := by
  have htree : (twoPages "t.html" "t.txt" greeting).IsTree := FileStore.isTree_of_entries (by decide +kernel)
  have hmarkup : Reading greeting true (Template.load (twoPages "t.html" "t.txt" greeting) "t.html") :=
    .markup htree (by decide +kernel) ((isMarkupName_iff _).mp (by decide +kernel))
  have hplain : Reading greeting false (Template.load (twoPages "t.html" "t.txt" greeting) "t.txt") := by
    refine .plain htree (by decide +kernel) fun hends => ?_
    exact absurd ((isMarkupName_iff _).mpr hends) (by decide +kernel)
  obtain ⟨t, ht⟩ := exists_ok_of_isOk (show (Template.load (twoPages "t.html" "t.txt" greeting) "t.html").isOk by
    decide +kernel)
  obtain ⟨u, hu⟩ := exists_ok_of_isOk (show (Template.load (twoPages "t.html" "t.txt" greeting) "t.txt").isOk by
    decide +kernel)
  have hsource : makesNoMarkup false greeting := by decide +kernel
  have hforms := escapedForm_of_readings hsource hmarkup hplain
  exact ⟨t, u, ht, hu, hforms.2.1 t u ht hu nofun⟩

/-- What the block `table` of a template is rendered as, if there is a template and it is rendered well. -/
def tableText (x : Except LoadFailure Template) : Option String := do
  let t ← x.toOption
  (t.render "table" (.list [])).toOption

/-- **A text that looks at the template itself** tells the name of its file, and one that includes another document
    looks for it beside its own file. -/
theorem self_tells_name :
    (tableText (Template.load (twoPages "t.html" "t.txt" shownSelf) "t.html") =
        some (escapeText "<TemplateReference 't.html'>") ∧
      tableText (Template.load (twoPages "t.html" "t.txt" shownSelf) "t.txt") = some "<TemplateReference 't.txt'>" ∧
      unescapeText (escapeText "<TemplateReference 't.html'>") ≠ "<TemplateReference 't.txt'>") ∧
    tableText (Template.load ((onePage "pages/t.txt" shownPart).place "pages/part.html" (.file [])) "pages/t.txt") =
        some "" ∧
      tableText (Template.parse ((onePage "pages/t.txt" shownPart).place "pages/part.html" (.file [])) shownPart) =
        none := by
  refine ⟨⟨?_, ?_, ?_⟩, ?_, ?_⟩
  all_goals decide +kernel

end RenderBench
