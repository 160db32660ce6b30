import Mathlib.Data.String.Basic
import RenderBench.Proofs.Template.Check
import RenderBench.Proofs.Template.Reading
import RenderBench.Proofs.Template.Sink

/-!
# `Proofs.Template.Blocks` — the blocks of a document and the names of a template

A block stands among the statements of a document, or anywhere inside one of them. The blocks that a reading collects
are exactly these, and no two of them have one name. So the sorted list of names, the question for one name and the
rendering of a name agree on which names there are.

## Contents
- `Stmt.bodies`, `Within`: a statement inside others, said without collecting anything.
- `mem_blocksOfAll_iff`: the blocks that are collected are those inside a document.
- `nodup_of_repeatedBlock?`: a document that could be read defines no block twice.
- `Template.Lists`, `lists_of_ofText`: a template whose names are the blocks of some statements.
- `templates_list_blocks`: every template that could be made is one.
-/

namespace RenderBench

namespace Template

/-! ## Blocks inside statements -/

/-- The bodies of a statement. -/
def Stmt.bodies : Stmt → List (List Stmt)
  | .forLoop _ _ _ _ body otherwise | .branch _ body otherwise => [body, otherwise]
  | .capture _ _ body | .scope _ _ body | .block _ _ _ _ body | .definition _ _ _ body | .callBlock _ _ _ body
  | .filterBlock _ body | .escaping _ body => [body]
  | .output _ | .assign _ _ | .inherit _ _ | .embed _ _ _ | .importing _ _ => []

/-- A statement is one of several, or stands in a body of one, however deep. -/
inductive Within (st : Stmt) : List Stmt → Prop
  | here {ss : List Stmt} : st ∈ ss → Within st ss
  | inside {ss body : List Stmt} {outer : Stmt} : outer ∈ ss → body ∈ outer.bodies → Within st body → Within st ss

/-- Whether a block stands among some statements or inside them. -/
def HasBlock (name : String) (ss : List Stmt) : Prop :=
  ∃ line withLocals required body, Within (.block line name withLocals required body) ss

/-- The blocks of a statement are itself, if it is one, and those of its bodies. -/
theorem blocksOf_eq (st : Stmt) : blocksOf st =
    (match st with
      | .block line name withLocals required body => [⟨name, line, withLocals, required, body⟩]
      | _ => []) ++ st.bodies.flatMap blocksOfAll := by
  cases st <;> simp [blocksOf, Stmt.bodies]

theorem mem_blocksOfAll {b : Block} {ss : List Stmt} : b ∈ blocksOfAll ss ↔ ∃ st ∈ ss, b ∈ blocksOf st := by
  induction ss with
  | nil => simp [blocksOfAll]
  | cons st ss ih => simp [blocksOfAll, ih]

theorem mem_blocksOf_of_body {b : Block} {st : Stmt} {body : List Stmt} (hbody : body ∈ st.bodies)
    (h : b ∈ blocksOfAll body) : b ∈ blocksOf st := by
  rw [blocksOf_eq]
  exact List.mem_append_right _ (List.mem_flatMap.mpr ⟨body, hbody, h⟩)

mutual

/-- What is collected from a statement is the statement, or stands inside it. -/
theorem within_of_mem_blocksOf {b : Block} : ∀ st : Stmt, b ∈ blocksOf st →
    Within (.block b.line b.name b.withLocals b.required b.body) [st]
  | .block line name withLocals required body, h => by
    rcases List.mem_cons.mp h with rfl | h
    · exact .here (List.mem_singleton_self _)
    · exact .inside (List.mem_singleton_self _) (List.mem_singleton_self _) (within_of_mem_blocksOfAll body h)
  | .forLoop _ _ _ _ body otherwise, h | .branch _ body otherwise, h => by
    rcases List.mem_append.mp h with h | h
    · exact .inside (List.mem_singleton_self _) List.mem_cons_self (within_of_mem_blocksOfAll body h)
    · exact .inside (List.mem_singleton_self _) (List.mem_cons_of_mem _ List.mem_cons_self)
        (within_of_mem_blocksOfAll otherwise h)
  | .capture _ _ body, h | .scope _ _ body, h | .definition _ _ _ body, h | .callBlock _ _ _ body, h
  | .filterBlock _ body, h | .escaping _ body, h =>
    .inside (List.mem_singleton_self _) (List.mem_singleton_self _) (within_of_mem_blocksOfAll body h)
  | .output _, h | .assign _ _, h | .inherit _ _, h | .embed _ _ _, h | .importing _ _, h => nomatch h

theorem within_of_mem_blocksOfAll {b : Block} : ∀ ss : List Stmt, b ∈ blocksOfAll ss →
    Within (.block b.line b.name b.withLocals b.required b.body) ss
  | st :: ss, h => by
    rcases List.mem_append.mp h with h | h
    · cases within_of_mem_blocksOf st h with
      | here hst => exact .here (List.mem_singleton.mp hst ▸ List.mem_cons_self)
      | inside houter hbody hwithin =>
        exact .inside (List.mem_singleton.mp houter ▸ List.mem_cons_self) hbody hwithin
    · cases within_of_mem_blocksOfAll ss h with
      | here hst => exact .here (List.mem_cons_of_mem st hst)
      | inside houter hbody hwithin => exact .inside (List.mem_cons_of_mem st houter) hbody hwithin

end

/-- What stands inside some statements is collected. -/
theorem mem_blocksOfAll_of_within {line : Nat} {name : String} {withLocals required : Bool} {body ss : List Stmt}
    (h : Within (.block line name withLocals required body) ss) :
    (⟨name, line, withLocals, required, body⟩ : Block) ∈ blocksOfAll ss := by
  induction h with
  | here hst => exact mem_blocksOfAll.mpr ⟨_, hst, List.mem_cons_self⟩
  | inside houter hbody _ ih => exact mem_blocksOfAll.mpr ⟨_, houter, mem_blocksOf_of_body hbody ih⟩

/-- **The blocks that are collected** are those that stand among the statements or inside them. -/
theorem mem_blocksOfAll_iff (name : String) (ss : List Stmt) :
    name ∈ (blocksOfAll ss).map Block.name ↔ HasBlock name ss := by
  rw [List.mem_map]
  constructor
  · rintro ⟨b, hb, rfl⟩
    exact ⟨b.line, b.withLocals, b.required, b.body, within_of_mem_blocksOfAll ss hb⟩
  · rintro ⟨line, withLocals, required, body, h⟩
    exact ⟨_, mem_blocksOfAll_of_within h, rfl⟩

/-! ## Names of blocks -/

/-- Blocks of which none has the name of an earlier one have different names. -/
theorem nodup_of_repeatedBlock? {seen : List String} {bs : List Block} (h : repeatedBlock? seen bs = none) :
    (bs.map Block.name).Nodup ∧ ∀ b ∈ bs, b.name ∉ seen := by
  induction bs generalizing seen with
  | nil => exact ⟨List.nodup_nil, List.forall_mem_nil _⟩
  | cons b bs ih =>
    rw [repeatedBlock?] at h
    by_cases hb : seen.contains b.name = true
    · rw [if_pos hb] at h
      cases h
    · rw [if_neg hb] at h
      obtain ⟨hnodup, hseen⟩ := ih h
      have hfirst : b.name ∉ seen := fun hmem => hb (List.contains_iff_mem.mpr hmem)
      refine ⟨List.nodup_cons.mpr ⟨fun hmem => ?_, hnodup⟩, fun b' hb' => ?_⟩
      · obtain ⟨b', hb', hname⟩ := List.mem_map.mp hmem
        exact hseen b' hb' (hname ▸ List.mem_cons_self)
      · rcases List.mem_cons.mp hb' with rfl | hb'
        · exact hfirst
        · exact fun hmem => hseen b' hb' (List.mem_cons_of_mem _ hmem)

/-- The blocks of a document are those of its statements, under different names. -/
theorem names_of_ofStatements {name : Option String} {escape : Bool} {statements : List Stmt} {d : Document}
    (h : Document.ofStatements name escape statements = .ok d) :
    d.blocks.map Block.name = (blocksOfAll statements).map Block.name ∧ (d.blocks.map Block.name).Nodup := by
  rw [ofStatements_eq] at h
  obtain ⟨_, hcheck, h⟩ := exists_of_bind_ok h
  cases h
  obtain ⟨_, hrepeated, -⟩ := exists_of_bind_ok hcheck
  have hnone : repeatedBlock? [] (documentBlocks escape statements) = none := by
    cases hr : repeatedBlock? [] (documentBlocks escape statements) with
    | none => rfl
    | some b => rw [hr] at hrepeated; cases hrepeated
  refine ⟨?_, (nodup_of_repeatedBlock? hnone).1⟩
  rw [documentBlocks, List.map_map]
  rfl

end Template

open RenderBench.Template (Stmt HasBlock Document Value lexemes parseStatements isMarkupName)

/-! ## Templates -/

/-- A template whose sub-templates are the blocks inside some statements: they are listed once each in the order of
    their names, the question for a name and the rendering of it find the same ones, and no failure of a rendering is
    told under another name. -/
structure Template.Lists (t : Template) (statements : List Stmt) : Prop where
  increasing : t.subTemplates.Pairwise (· < ·)
  mem : ∀ name, name ∈ t.subTemplates ↔ HasBlock name statements
  has : ∀ name, t.hasSubTemplate name = true ↔ name ∈ t.subTemplates
  refused : ∀ name, name ∉ t.subTemplates → ∀ (items : Value) (sink : Sink),
    t.renderInto sink name items = (sink, .error ⟨name, .noSubTemplate t.name⟩)
  failed : ∀ (name : String) (items : Value) (sink : Sink) (e : RenderError),
    (t.renderInto sink name items).2 = .error e → e.name = name ∧
      ∀ template, e.cause = .noSubTemplate template → name ∉ t.subTemplates

namespace Template

variable {t : Template}

theorem mem_subTemplates {name : String} : name ∈ t.subTemplates ↔ name ∈ t.document.blocks.map Block.name :=
  List.mem_mergeSort

/-- Different names come out in strictly increasing order. -/
theorem subTemplates_increasing (h : (t.document.blocks.map Block.name).Nodup) :
    t.subTemplates.Pairwise (· < ·) := by
  have hsorted : t.subTemplates.Pairwise fun a b => decide (a ≤ b) = true := by
    apply List.pairwise_mergeSort
    · intro a b c hab hbc
      exact decide_eq_true (le_trans (of_decide_eq_true hab) (of_decide_eq_true hbc))
    · intro a b
      exact Bool.or_eq_true_iff.mpr ((le_total a b).imp decide_eq_true decide_eq_true)
  have hnodup : t.subTemplates.Nodup := (List.mergeSort_perm _ _).nodup_iff.mpr h
  exact (hsorted.and hnodup).imp fun hab => lt_of_le_of_ne (of_decide_eq_true hab.1) hab.2

theorem hasSubTemplate_iff {name : String} : t.hasSubTemplate name = true ↔ name ∈ t.subTemplates := by
  rw [mem_subTemplates, hasSubTemplate, List.any_eq_true, List.mem_map]
  simp only [beq_iff_eq]

theorem find?_eq_none_iff {name : String} :
    (t.document.blocks.find? fun b => b.name == name) = none ↔ name ∉ t.subTemplates := by
  rw [← hasSubTemplate_iff, hasSubTemplate, List.find?_eq_none, List.any_eq_true]
  simp

theorem renderInto_refused {name : String} (h : name ∉ t.subTemplates) (items : Value) (sink : Sink) :
    t.renderInto sink name items = (sink, .error ⟨name, .noSubTemplate t.name⟩) := by
  rw [renderInto, find?_eq_none_iff.mpr h]

/-- A failure is told under the name that was asked for, and says that there is no such name only if there is none. -/
theorem renderInto_failed {name : String} {items : Value} {sink : Sink} {e : RenderError}
    (h : (t.renderInto sink name items).2 = .error e) :
    e.name = name ∧ ∀ template, e.cause = .noSubTemplate template → name ∉ t.subTemplates := by
  cases hfind : t.document.blocks.find? fun b => b.name == name with
  | none =>
    rw [renderInto, hfind] at h
    cases h
    exact ⟨rfl, fun _ _ => find?_eq_none_iff.mp hfind⟩
  | some b =>
    rw [renderInto_of_find hfind] at h
    cases hresult : ((t.trace b items).into sink).2 with
    | ok _ => rw [hresult] at h; cases h
    | error f =>
      rw [hresult] at h
      cases h
      exact ⟨rfl, fun _ hcause => RenderCause.noConfusion hcause⟩

/-- A template lists the blocks of the statements that its document was made of. -/
theorem lists_of_ofText {name : Option String} {escape : Bool} {source : String}
    (h : Document.ofText name escape source = .ok t.document) :
    ∃ statements, parseStatements (lexemes source) = .ok statements ∧ t.Lists statements := by
  obtain ⟨statements, hparse, h⟩ := exists_of_bind_ok h
  obtain ⟨hnames, hnodup⟩ := Template.names_of_ofStatements h
  refine ⟨statements, hparse, subTemplates_increasing hnodup, fun n => ?_, fun n => hasSubTemplate_iff,
    fun n hn items sink => renderInto_refused hn items sink, fun n items sink e he => renderInto_failed he⟩
  rw [mem_subTemplates, hnames, Template.mem_blocksOfAll_iff]

end Template

theorem ofText_of_parse {files : FileStore} {source label : String} {t : Template}
    (h : Template.parse files source label = .ok t) : Document.ofText none true source = .ok t.document := by
  unfold Template.parse at h
  cases hd : Document.ofText none true source with
  | error f => rw [hd] at h; cases h
  | ok d => rw [hd] at h; cases h; rfl

/-- A template of a file comes from the text that the file holds. -/
theorem ofText_of_load {files : FileStore} {path : String} {t : Template} (h : Template.load files path = .ok t) :
    ∃ source, files.readFile? (FilePath.ofString path) = some (encodeUtf8 source.toList) ∧
      Document.ofText (some (FilePath.ofString path).name) (isMarkupName (FilePath.ofString path).name) source =
        .ok t.document := by
  have hread : Template.readDocument files (FilePath.ofString path).parent (FilePath.ofString path).name =
      .ok t.document := by
    unfold Template.load at h
    dsimp only at h
    split at h <;> cases h
    assumption
  have hname : (FilePath.ofString path).name ≠ ".." := by
    intro hname
    -- the parent of a directory is no template
    have houtside : Template.templatePath? (FilePath.ofString path).parent ".." = none := by
      have hpieces : FilePath.pieces ".." = [".."] := by decide +kernel
      rw [Template.templatePath?, hpieces]
      rfl
    rw [hname, Template.readDocument, houtside] at hread
    cases hread
  have hpath := Template.templatePath?_name path hname
  cases hfile : files.readFile? (FilePath.ofString path) with
  | none =>
    rw [Template.readDocument_missing hpath hfile] at hread
    cases hread
  | some bytes =>
    -- bytes that are no text have been refused
    by_cases hbytes : ∃ cs, bytes = encodeUtf8 cs
    · obtain ⟨cs, rfl⟩ := hbytes
      have htext : files.readFile? (FilePath.ofString path) = some (encodeUtf8 (String.ofList cs).toList) := by
        rw [hfile, String.toList_ofList]
      rw [Template.readDocument_text hpath htext] at hread
      exact ⟨String.ofList cs, by rw [String.toList_ofList], ok_of_mapError_ok hread⟩
    · obtain ⟨f, hf⟩ := Template.readDocument_notText hpath hfile fun cs hcs => hbytes ⟨cs, hcs⟩
      rw [hf] at hread
      cases hread

/-- **The names of a template.** A template that could be made, from a text or from a file that holds one, lists the
    blocks of that text: all of them, however deep they stand in others, once each and in the order of their names. A
    name is asked for and rendered as one of them exactly when it is listed, and a name that is not listed leaves the
    sink alone. Every failure of a rendering is told under the name that was asked for. -/
theorem templates_list_blocks (files : FileStore) (t : Template) :
    (∀ source label, Template.parse files source label = .ok t →
      ∃ statements, parseStatements (lexemes source) = .ok statements ∧ t.Lists statements) ∧
    ∀ path, Template.load files path = .ok t →
      ∃ source statements, files.readFile? (FilePath.ofString path) = some (encodeUtf8 source.toList) ∧
        parseStatements (lexemes source) = .ok statements ∧ t.Lists statements := by
  refine ⟨fun source label h => Template.lists_of_ofText (ofText_of_parse h), fun path h => ?_⟩
  obtain ⟨source, hfile, htext⟩ := ofText_of_load h
  obtain ⟨statements, hparse, hlists⟩ := Template.lists_of_ofText htext
  exact ⟨source, statements, hfile, hparse, hlists⟩

/-- A block in a loop in another block. -/
def nestedBlocks : String :=
  "\x7b% block outer %\x7d\x7b% for i in items %\x7d\x7b% block inner %\x7d\x7b\x7b i \x7d\x7d\x7b% endblock %\x7d" ++
    "\x7b% endfor %\x7d\x7b% endblock %\x7d"

theorem templates_list_nestedBlocks :
    ∃ t u statements, Template.parse FileStore.empty nestedBlocks = .ok t ∧
      Template.load (FileStore.empty.place "t.html" (.file (encodeUtf8 nestedBlocks.toList))) "t.html" = .ok u ∧
      parseStatements (lexemes nestedBlocks) = .ok statements ∧ HasBlock "inner" statements ∧
      "inner" ∈ u.subTemplates ∧ ¬ HasBlock "table" statements ∧
      ∀ items sink, t.renderInto sink "table" items = (sink, .error ⟨"table", .noSubTemplate t.name⟩) := by
  have hinner : (Template.parse FileStore.empty nestedBlocks).map (·.hasSubTemplate "inner") = .ok true := by
    decide +kernel
  have htable : (Template.parse FileStore.empty nestedBlocks).map (·.hasSubTemplate "table") = .ok false := by
    decide +kernel
  have hinner' : (Template.load (FileStore.empty.place "t.html" (.file (encodeUtf8 nestedBlocks.toList)))
      "t.html").map (·.hasSubTemplate "inner") = .ok true := by decide +kernel
  obtain ⟨t, hparse, hinner⟩ := exists_of_map_ok hinner
  obtain ⟨u, hload, hinner'⟩ := exists_of_map_ok hinner'
  rw [hparse] at htable
  have htable : t.hasSubTemplate "table" = false := Except.ok.inj htable
  obtain ⟨statements, hstatements, hlists⟩ := (templates_list_blocks FileStore.empty t).1 nestedBlocks _ hparse
  obtain ⟨_, _, -, -, hlists'⟩ := (templates_list_blocks _ u).2 "t.html" hload
  have hmissing : "table" ∉ t.subTemplates := fun h =>
    Bool.false_ne_true (htable.symm.trans ((hlists.has "table").mpr h))
  exact ⟨t, u, statements, hparse, hload, hstatements, (hlists.mem "inner").mp ((hlists.has "inner").mp hinner),
    (hlists'.has "inner").mp hinner', fun h => hmissing ((hlists.mem "table").mpr h), hlists.refused "table" hmissing⟩

end RenderBench
