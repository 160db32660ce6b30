import RenderBench.Proofs.Template.Reading
import RenderBench.Proofs.Template.Sink
import RenderBench.Proofs.Template.Taking

/-!
# `Proofs.Template.Loading` — templates of files and of texts

There are two ways to a template: from a file, and from a text. A file that holds a text leads to the template
of that text under the name of the file. The name is told in three places. It decides whether the output is
escaped; a name that is not one of markup leaves other constants to be known before the rendering, so that faults are
found in expressions that are not looked at otherwise, or the other way around. It is quoted where there is
no block, and where a condition without an alternative does not hold. And it is what a block sees that looks at
the template itself. The directory of the file decides where other documents are looked for, and nothing else.

## Contents
- `Template.refusal?`, `Refusal.IsHidden`: why there is no template.
- `Template.SameUpToName`: the templates of a file and of its text, and `sameUpToName_of_load`: they are.
- `load_missing`, `load_notText`, `load_text`: what a file is loaded as.
- `load_refines`: loading, told by parsing.
- `load_tells_file`: files whose name or directory is told.
-/

namespace RenderBench

open RenderBench.Template (Value Stmt Fault SyntaxFault Document isMarkupName templatePath?_name readDocument_missing
  readDocument_notText readDocument_text naming ofText_named ofText_agree Hidden CodeFault loadDocument
  answers_naming blocks_discreet relabel_naming renderPart_naming together_relabel allDiscreet_iff all_of_subset keeps_id
  relabel)

/-! ## Outcomes -/

/-- What keeps a text from being a template: what is told of it at its path, or a fault that is none of the engine's
    own. -/
abbrev Refusal := LoadCause ⊕ CodeFault

def LoadFailure.refusal : LoadFailure → Refusal
  | .refused e => .inl e.cause
  | .escaped f => .inr f

/-- Why there is no template, if there is none. -/
def Template.refusal? (x : Except LoadFailure Template) : Option Refusal :=
  match x with
  | .ok _ => none
  | .error e => some e.refusal

/-- A refusal for a fault of the text. -/
def Refusal.ofFault (f : SyntaxFault) : Refusal := (LoadFailure.ofFault "" f).refusal

/-- A refusal for what a constant hides. -/
def Refusal.IsHidden (c : Refusal) : Prop := ∃ f : SyntaxFault, f.IsHidden ∧ c = Refusal.ofFault f

/-- A failure that is told of a template with another name: the name of the template itself, and the name of its file
    where that is what is missing. -/
def RenderError.renamed (name : String) (e : RenderError) : RenderError :=
  match e.cause with
  | .noSubTemplate _ => ⟨e.name, .noSubTemplate name⟩
  | .failed f => ⟨e.name, .failed (f.relabel (naming name))⟩

/-- **A template under another name**: the same blocks, which are rendered alike as far as they look at the template
    itself only for its blocks, and ask for no documents that may not be the same ones for both. -/
structure Template.SameUpToName (t u : Template) : Prop where
  subTemplates : t.subTemplates = u.subTemplates
  unknown : ∀ block items, u.hasSubTemplate block = false →
    t.render block items = .error ⟨block, .noSubTemplate t.name⟩ ∧
      u.render block items = .error ⟨block, .noSubTemplate u.name⟩
  render : ∀ loads : Bool,
    (loads = true → loadDocument t.files t.directory = loadDocument u.files u.directory) →
    (∀ b ∈ u.document.blocks, Stmt.allDiscreet true loads b.body = true) →
    ∀ block items, items.Given → t.render block items = (u.render block items).mapError (RenderError.renamed t.name)

/-! ## Templates under another name -/

variable {t u : Template} {name block : String} {items : Value}

/-- A rendering whose traces differ in the name of the document differs in that name and in the template's own. -/
theorem render_renamed (hname : t.name = name) (hdocument : t.document = u.document.relabel (naming name))
    (htrace : ∀ b ∈ u.document.blocks, t.trace b items = relabel (naming name) (u.trace b items)) :
    t.render block items = (u.render block items).mapError (RenderError.renamed name) := by
  have hblocks : t.document.blocks = u.document.blocks := by rw [hdocument, relabel_naming]
  rw [render_eq, render_eq, Template.course, Template.course, hblocks, hname]
  cases hfind : u.document.blocks.find? fun b => b.name == block with
  | none => rfl
  | some b =>
    have hb := htrace b (List.mem_of_find?_eq_some hfind)
    simp only [hb]
    generalize u.trace b items = trace
    obtain ⟨chunks, result⟩ := trace
    cases result <;> rfl

/-- The variables of a rendering hold no names of files. -/
theorem globals_relabel (hitems : items.Given) (r : Template.Relabelling) :
    relabel r (Template.globals items) = Template.globals items := by
  refine Template.relabel_bindings_self fun p hp => ?_
  rcases List.mem_cons.mp hp with rfl | hp
  · exact hitems.relabel
  · rw [List.mem_singleton.mp hp]
    rfl

/-- A block of a template, and of one whose document is the same under a name. -/
theorem trace_named {loads : Bool} {b : Template.Block} (hdocument : t.document = u.document.relabel (naming name))
    (hanswers : loads = true →
      (naming name).Answers (loadDocument u.files u.directory) (loadDocument t.files t.directory))
    (hdiscreet : ∀ b ∈ u.document.blocks, Stmt.allDiscreet false loads b.body = true) (hitems : items.Given)
    (hb : b ∈ u.document.blocks) : t.trace b items = relabel (naming name) (u.trace b items) := by
  have hpart (ss : List Stmt) (items : Value) (hss : ∀ s ∈ ss, s.discreet false loads = true) (hitems : items.Given) :
      t.part b ss items = relabel (naming name) (u.part b ss items) := by
    rw [Template.part, hdocument]
    exact renderPart_naming hanswers b hdiscreet (fun r => globals_relabel hitems r) (allDiscreet_iff.mpr hss)
  have hescape : t.document.escape = u.document.escape := by rw [hdocument, relabel_naming]
  exact trace_together (together_relabel (naming name)) (t := fun i => cond i t u) (b := fun _ => b) (fun _ => keeps_id)
    (fun _ => (List.map_id _).symm) (fun s => s.discreet false loads = true) (fun _ _ => all_of_subset)
    (allDiscreet_iff.mp (hdiscreet b hb))
    (fun v _ => congrArg (fun escape => Template.Trace.write (v.written escape)) hescape)
    (fun ss items hss hitems => by
      rw [List.map_id]
      exact hpart ss items hss hitems) hitems

/-- A block of a template and of the same one under another name. -/
theorem trace_renamed {source : String} {loads : Bool} {b : Template.Block}
    (hread : Document.ofText none true source = .ok u.document)
    (hdocument : t.document = u.document.relabel (naming name))
    (hloads : loads = true → loadDocument t.files t.directory = loadDocument u.files u.directory)
    (hblocks : ∀ b ∈ u.document.blocks, Stmt.allDiscreet true loads b.body = true) (hitems : items.Given)
    (hb : b ∈ u.document.blocks) : t.trace b items = relabel (naming name) (u.trace b items) := by
  have hdiscreet : ∀ b ∈ u.document.blocks, Stmt.allDiscreet false loads b.body = true := by
    obtain ⟨statements, -, hstatements⟩ := exists_of_bind_ok hread
    exact blocks_discreet hstatements hblocks
  exact trace_named hdocument (fun h => hloads h ▸ answers_naming name u.files u.directory) hdiscreet hitems hb

theorem render_without_block (h : t.hasSubTemplate block = false) :
    t.render block items = .error ⟨block, .noSubTemplate t.name⟩ := by
  have hfind : (t.document.blocks.find? fun b => b.name == block) = none := by
    rw [List.find?_eq_none]
    intro b hb hname
    have hany : t.hasSubTemplate block = true := List.any_eq_true.mpr ⟨b, hb, hname⟩
    rw [h] at hany
    cases hany
  rw [Template.render, Template.renderInto, hfind]

/-! ## Loading and parsing -/

variable {files : FileStore}

theorem load_name {path : String} (h : Template.load files path = .ok t) :
    t.name = (FilePath.ofString path).name := by
  unfold Template.load at h
  dsimp only at h
  split at h <;> cases h
  rfl

theorem ofFault_path {path : String} {f : SyntaxFault} {e : LoadError} (h : LoadFailure.ofFault path f = .refused e) :
    e.path = path := by
  unfold LoadFailure.ofFault at h
  split at h <;> cases h
  rfl

theorem load_error_path {path : String} {e : LoadError} (h : Template.load files path = .error (.refused e)) :
    e.path = path := by
  unfold Template.load at h
  dsimp only at h
  split at h <;> simp only [reduceCtorEq, Except.error.injEq] at h
  · cases h
    rfl
  · cases h
    rfl
  · cases h
    rfl
  · exact ofFault_path h

/-- A step to the parent leads to no file. -/
theorem readFile?_of_name (hfiles : files.IsTree) {p : FilePath} (hname : p.name = "..") :
    files.readFile? p = none := by
  have hparts : p.parts ≠ [] := by
    intro hempty
    rw [FilePath.name, hempty] at hname
    exact absurd hname (by decide +kernel)
  have hsplit : p.parts = p.parts.dropLast ++ [".."] := by
    rw [← hname, FilePath.name, List.getLast?_eq_some_getLast hparts, Option.getD_some, List.dropLast_concat_getLast]
  exact FileStore.readFile?_of_step hfiles hsplit

theorem load_missing {path : String} (hfile : files.readFile? (FilePath.ofString path) = none) :
    Template.load files path = .error (.refused ⟨path, .notFound⟩) := by
  by_cases hname : (FilePath.ofString path).name = ".."
  · have houtside : Template.templatePath? (FilePath.ofString path).parent ".." = none := by
      have hpieces : FilePath.pieces ".." = [".."] := by decide +kernel
      rw [Template.templatePath?, hpieces]
      rfl
    unfold Template.load
    simp only [Template.readDocument, hname, houtside]
  · have hread := readDocument_missing (templatePath?_name path hname) hfile
    unfold Template.load
    simp only [hread]

section Text

variable {path source : String} (hfiles : files.IsTree)

include hfiles

theorem name_of_file {bytes : List UInt8} (hfile : files.readFile? (FilePath.ofString path) = some bytes) :
    (FilePath.ofString path).name ≠ ".." := by
  intro hname
  rw [readFile?_of_name hfiles hname] at hfile
  cases hfile

theorem load_notText {bytes : List UInt8} (hfile : files.readFile? (FilePath.ofString path) = some bytes)
    (hbytes : ∀ cs, bytes ≠ encodeUtf8 cs) : ∃ f, Template.load files path = .error (.refused ⟨path, .encoding f⟩) := by
  obtain ⟨f, hread⟩ := readDocument_notText (templatePath?_name path (name_of_file hfiles hfile)) hfile hbytes
  refine ⟨f, ?_⟩
  unfold Template.load
  simp only [hread]

/-- The template of a file that holds a text, from the document that the text is under the name of the file. -/
theorem load_text (hfile : files.readFile? (FilePath.ofString path) = some (encodeUtf8 source.toList)) :
    Template.load files path =
      ((Document.ofText (some (FilePath.ofString path).name) (isMarkupName (FilePath.ofString path).name) source).map
        fun document => ⟨(FilePath.ofString path).name, document, files, (FilePath.ofString path).parent⟩).mapError
          (LoadFailure.ofFault path) := by
  have hread := readDocument_text (templatePath?_name path (name_of_file hfiles hfile)) hfile
  unfold Template.load
  simp only [hread]
  cases Document.ofText (some (FilePath.ofString path).name) (isMarkupName (FilePath.ofString path).name) source <;> rfl

end Text

theorem parse_eq (files : FileStore) (source label : String) : Template.parse files source label =
    ((Document.ofText none true source).map fun document => ⟨label, document, files, FilePath.ofString "."⟩).mapError
      (LoadFailure.ofFault label) := by
  unfold Template.parse
  cases Document.ofText none true source <;> rfl

section Refusals

variable {x y : Except SyntaxFault Document} {f f' : Document → Template} {path path' : String}

/-- The path is told beside the reason, and not in it. -/
theorem refusal_ofFault (path : String) (f : SyntaxFault) : (LoadFailure.ofFault path f).refusal = Refusal.ofFault f := by
  simp only [Refusal.ofFault, LoadFailure.ofFault]
  split <;> rfl

theorem refusal?_congr (h : x.map (fun _ => ()) = y.map (fun _ => ())) :
    Template.refusal? ((x.map f).mapError (LoadFailure.ofFault path)) =
      Template.refusal? ((y.map f').mapError (LoadFailure.ofFault path')) := by
  cases x with
  | ok d =>
    cases y with
    | ok d' => rfl
    | error f => cases h
  | error f =>
    cases y with
    | ok d => cases h
    | error f' =>
      cases h
      exact congrArg some ((refusal_ofFault path _).trans (refusal_ofFault path' _).symm)

theorem refusal?_of_hidden (h : Hidden x) : ∃ c : Refusal, c.IsHidden ∧
    Template.refusal? ((x.map f).mapError (LoadFailure.ofFault path)) = some c := by
  obtain ⟨fault, hhidden, rfl⟩ := h
  exact ⟨Refusal.ofFault fault, ⟨fault, hhidden, rfl⟩, congrArg some (refusal_ofFault path fault)⟩

end Refusals

theorem cause_of_escaped {path : String} {fault : SyntaxFault} {c : CodeFault}
    (h : LoadFailure.ofFault path fault = .escaped c) : fault.cause = .code c := by
  unfold LoadFailure.ofFault at h
  split at h <;> cases h
  assumption

/-- Only a text has a fault that is none of the engine's own. -/
theorem load_escaped (hfiles : files.IsTree) {path : String} {c : CodeFault}
    (h : Template.load files path = .error (.escaped c)) : ∃ source fault,
      files.readFile? (FilePath.ofString path) = some (encodeUtf8 source.toList) ∧
      Document.ofText (some (FilePath.ofString path).name) (isMarkupName (FilePath.ofString path).name) source =
        .error fault ∧ fault.cause = .code c := by
  cases hfile : files.readFile? (FilePath.ofString path) with
  | none =>
    rw [load_missing hfile] at h
    cases h
  | some bytes =>
    by_cases htext : ∃ cs, bytes = encodeUtf8 cs
    · obtain ⟨cs, rfl⟩ := htext
      rw [← String.toList_ofList (l := cs)] at hfile
      rw [load_text hfiles hfile] at h
      cases hread : Document.ofText (some (FilePath.ofString path).name) (isMarkupName (FilePath.ofString path).name)
          (String.ofList cs) with
      | ok d =>
        rw [hread] at h
        cases h
      | error fault =>
        rw [hread] at h
        exact ⟨String.ofList cs, fault, String.toList_ofList ▸ rfl, hread, cause_of_escaped (Except.error.inj h)⟩
    · obtain ⟨f, hload⟩ := load_notText hfiles hfile fun cs hcs => htext ⟨cs, hcs⟩
      rw [hload] at h
      cases h

/-- The documents of a file that holds markup and of its text: the one is the other under the name of the file. -/
theorem document_of_load (hfiles : files.IsTree) {path source label : String}
    (hfile : files.readFile? (FilePath.ofString path) = some (encodeUtf8 source.toList))
    (hmarkup : isMarkupName (FilePath.ofString path).name = true) (ht : Template.load files path = .ok t)
    (hu : Template.parse files source label = .ok u) :
    Document.ofText none true source = .ok u.document ∧ t.document = u.document.relabel (naming t.name) := by
  rw [load_text hfiles hfile, hmarkup, ofText_named] at ht
  rw [parse_eq] at hu
  -- both read the same statements with output escaped
  cases hread : Document.ofText none true source with
  | error f =>
    rw [hread] at hu
    cases hu
  | ok d =>
    rw [hread] at ht hu
    cases ht
    cases hu
    exact ⟨rfl, rfl⟩

/-- **The template of a file that holds markup** is that of its text under another name. -/
theorem sameUpToName_of_load (hfiles : files.IsTree) {path source label : String}
    (hfile : files.readFile? (FilePath.ofString path) = some (encodeUtf8 source.toList))
    (hmarkup : isMarkupName (FilePath.ofString path).name = true) (ht : Template.load files path = .ok t)
    (hu : Template.parse files source label = .ok u) : t.SameUpToName u := by
  obtain ⟨hread, hdocument⟩ := document_of_load hfiles hfile hmarkup ht hu
  have hblocks : t.document.blocks = u.document.blocks := by rw [hdocument, relabel_naming]
  have hblock (block : String) : t.hasSubTemplate block = u.hasSubTemplate block := by
    rw [Template.hasSubTemplate, hblocks, Template.hasSubTemplate]
  exact
    { subTemplates := by rw [Template.subTemplates, hblocks, Template.subTemplates]
      unknown := fun block _ h => ⟨render_without_block ((hblock block).trans h), render_without_block h⟩
      render := fun loads hloads hdiscreet block items hitems =>
        render_renamed rfl hdocument fun b hb => trace_renamed hread hdocument hloads hdiscreet hitems hb }

/-- **Loading is parsing under the name of a file.** There is a template that is named by the last component of the
    path, or an error that tells the path, unless a text has a fault that is none of the engine's own. There is an error
    where there is no file, or where the file is no text. Where it is a text, there is no template for the same reason as
    there is none of the text: always if the name is one of markup, and otherwise unless a constant hides the reason from
    one of the two. And the template of markup is that of the text under another name. -/
theorem load_refines (hfiles : files.IsTree) (path label : String) :
    (∀ t, Template.load files path = .ok t → t.name = (FilePath.ofString path).name) ∧
    (∀ e, Template.load files path = .error (.refused e) → e.path = path) ∧
    (∀ c, Template.load files path = .error (.escaped c) → ∃ source fault,
      files.readFile? (FilePath.ofString path) = some (encodeUtf8 source.toList) ∧
      Document.ofText (some (FilePath.ofString path).name) (isMarkupName (FilePath.ofString path).name) source =
        .error fault ∧ fault.cause = .code c) ∧
    (files.readFile? (FilePath.ofString path) = none → Template.load files path = .error (.refused ⟨path, .notFound⟩)) ∧
    (∀ bytes, files.readFile? (FilePath.ofString path) = some bytes → (∀ cs, bytes ≠ encodeUtf8 cs) →
      ∃ f, Template.load files path = .error (.refused ⟨path, .encoding f⟩)) ∧
    ∀ source, files.readFile? (FilePath.ofString path) = some (encodeUtf8 source.toList) →
      (Template.refusal? (Template.load files path) = Template.refusal? (Template.parse files source label) ∨
        isMarkupName (FilePath.ofString path).name = false ∧
          ∃ c : Refusal, c.IsHidden ∧ (Template.refusal? (Template.load files path) = some c ∨
            Template.refusal? (Template.parse files source label) = some c)) ∧
      (isMarkupName (FilePath.ofString path).name = true → ∀ t u, Template.load files path = .ok t →
        Template.parse files source label = .ok u → t.SameUpToName u) := by
  refine ⟨fun t => load_name, fun e => load_error_path, fun c => load_escaped hfiles, load_missing,
    fun bytes => load_notText hfiles, ?_⟩
  intro source hfile
  refine ⟨?_, fun hmarkup t u => sameUpToName_of_load hfiles hfile hmarkup⟩
  rw [load_text hfiles hfile, parse_eq]
  cases hmarkup : isMarkupName (FilePath.ofString path).name with
  | true =>
    left
    refine refusal?_congr ?_
    rw [ofText_named]
    cases Document.ofText none true source <;> rfl
  | false =>
    -- what is escaped decides which constants are known, and in a place that is not reached nothing is missed
    rcases ofText_agree (some (FilePath.ofString path).name) none false true source with hsame | hload | hparse
    · exact .inl (refusal?_congr hsame)
    · obtain ⟨c, hc, hrefusal⟩ := refusal?_of_hidden hload
      exact .inr ⟨rfl, c, hc, .inl hrefusal⟩
    · obtain ⟨c, hc, hrefusal⟩ := refusal?_of_hidden hparse
      exact .inr ⟨rfl, c, hc, .inr hrefusal⟩

/-! ## One page, and four that tell -/

/-- A file of a name that holds a text, and one that holds none. -/
def onePage (path text : String) : FileStore :=
  (FileStore.empty.place path (.file (encodeUtf8 text.toList))).place "bytes.html" (.file [0xFF])

def greeting : String := "\x7b% block table %\x7d<p>\x7b\x7b items \x7d\x7d\x7b% endblock %\x7d"

theorem load_refines_greeting :
    Template.load (onePage "t.html" greeting) "u.html" = .error (.refused ⟨"u.html", .notFound⟩) ∧
    (∃ f, Template.load (onePage "t.html" greeting) "bytes.html" = .error (.refused ⟨"bytes.html", .encoding f⟩)) ∧
    ∃ t u, Template.load (onePage "t.html" greeting) "t.html" = .ok t ∧
      Template.parse (onePage "t.html" greeting) greeting = .ok u ∧ t.name = "t.html" ∧
      t.subTemplates = u.subTemplates ∧
      ∀ items, items.Given →
        t.render "table" items = (u.render "table" items).mapError (RenderError.renamed "t.html") := by
  have htree : (onePage "t.html" greeting).IsTree := FileStore.isTree_of_entries (by decide +kernel)
  have hrefines (path : String) := load_refines htree path "<string>"
  have hname : (FilePath.ofString "t.html").name = "t.html" := by decide +kernel
  have hfile : (onePage "t.html" greeting).readFile? (FilePath.ofString "t.html") =
      some (encodeUtf8 greeting.toList) := by decide +kernel
  have hbytes (cs : List Char) : ([0xFF] : List UInt8) ≠ encodeUtf8 cs := by
    intro hcs
    have hdecode : (decodeUtf8 [0xFF]).isOk = false := by decide +kernel
    have hok : (decodeUtf8 (encodeUtf8 cs)).isOk = true := by rw [decodeUtf8_encodeUtf8]; rfl
    exact absurd (hdecode.symm.trans (congrArg (fun bytes => (decodeUtf8 bytes).isOk) hcs)) (hok ▸ nofun)
  obtain ⟨t, hload⟩ := exists_ok_of_isOk (show (Template.load (onePage "t.html" greeting) "t.html").isOk by
    decide +kernel)
  obtain ⟨u, hparse⟩ := exists_ok_of_isOk (show (Template.parse (onePage "t.html" greeting) greeting).isOk by
    decide +kernel)
  have htitle : t.name = "t.html" := hname ▸ (hrefines "t.html").1 t hload
  obtain ⟨hsub, -, hrender⟩ := ((hrefines "t.html").2.2.2.2.2 greeting hfile).2 (by decide +kernel) t u hload hparse
  have hdiscreet : (Template.parse (onePage "t.html" greeting) greeting).toOption.map (fun u =>
      u.document.blocks.all fun b => Stmt.allDiscreet true false b.body) = some true := by decide +kernel
  rw [hparse] at hdiscreet
  have hblocks : ∀ b ∈ u.document.blocks, Stmt.allDiscreet true false b.body = true :=
    List.all_eq_true.mp (Option.some.inj hdiscreet)
  refine ⟨(hrefines "u.html").2.2.2.1 (by decide +kernel), (hrefines "bytes.html").2.2.2.2.1 _ (by decide +kernel) hbytes,
    t, u, hload, hparse, htitle, hsub, fun items hitems => ?_⟩
  have hsame := hrender false nofun hblocks "table" items hitems
  rwa [htitle] at hsame

/-- The text of a rendering, or why there is none. -/
def Template.outcome (x : Except RenderError String) : String ⊕ String :=
  match x with
  | .ok text => .inl text
  | .error e => .inr e.reason

/-- A file of markup that holds a text, whose block `table` is rendered otherwise than that of the text. -/
structure RendersOtherwise (files : FileStore) (path text : String) : Prop where
  file : files.readFile? (FilePath.ofString path) = some (encodeUtf8 text.toList)
  markup : isMarkupName (FilePath.ofString path).name = true
  differs : ∃ t u, Template.load files path = .ok t ∧ Template.parse files text = .ok u ∧
    t.hasSubTemplate "table" = true ∧
      Template.outcome (t.render "table" (.list [])) ≠ Template.outcome (u.render "table" (.list []))

theorem rendersOtherwise_of {files : FileStore} {path text : String}
    (hfile : files.readFile? (FilePath.ofString path) = some (encodeUtf8 text.toList))
    (hmarkup : isMarkupName (FilePath.ofString path).name = true)
    (hdiffers : (do
      let t ← (Template.load files path).toOption
      let u ← (Template.parse files text).toOption
      return t.hasSubTemplate "table" && decide (Template.outcome (t.render "table" (.list [])) ≠
        Template.outcome (u.render "table" (.list [])))) = some true) : RendersOtherwise files path text := by
  refine ⟨hfile, hmarkup, ?_⟩
  cases hload : Template.load files path with
  | error e =>
    rw [hload] at hdiffers
    cases hdiffers
  | ok t =>
    cases hparse : Template.parse files text with
    | error e =>
      rw [hload, hparse] at hdiffers
      cases hdiffers
    | ok u =>
      rw [hload, hparse] at hdiffers
      obtain ⟨hblock, hne⟩ := Bool.and_eq_true_iff.mp (Option.some.inj hdiffers)
      exact ⟨t, u, rfl, rfl, hblock, of_decide_eq_true hne⟩

def shownCondition : String := "\x7b% block table %\x7d\x7b\x7b (1 if false).x \x7d\x7d\x7b% endblock %\x7d"

def shownSelf : String := "\x7b% block table %\x7d\x7b\x7b self \x7d\x7d\x7b% endblock %\x7d"

def shownPart : String := "\x7b% block table %\x7d\x7b% include 'part.html' %\x7d\x7b% endblock %\x7d"

def foldedTest : String :=
  "\x7b% block table %\x7d\x7b\x7b (['<', 'x'|e]|join == '<x') or (1|nofilter) \x7d\x7d\x7b% endblock %\x7d"

theorem load_tells_file :
    RendersOtherwise (onePage "t.html" shownCondition) "t.html" shownCondition ∧
    RendersOtherwise (onePage "t.html" shownSelf) "t.html" shownSelf ∧
    RendersOtherwise ((onePage "pages/t.html" shownPart).place "pages/part.html" (.file [])) "pages/t.html"
      shownPart ∧
    (onePage "t.txt" foldedTest).readFile? (FilePath.ofString "t.txt") = some (encodeUtf8 foldedTest.toList) ∧
    Template.refusal? (Template.load (onePage "t.txt" foldedTest) "t.txt") ≠
      Template.refusal? (Template.parse (onePage "t.txt" foldedTest) foldedTest) := by
  refine ⟨rendersOtherwise_of ?_ ?_ ?_, rendersOtherwise_of ?_ ?_ ?_, rendersOtherwise_of ?_ ?_ ?_, ?_, ?_⟩
  all_goals decide +kernel

end RenderBench
