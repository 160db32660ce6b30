import RenderBench.Proofs.Stepwise
import RenderBench.Proofs.Template.Check
import RenderBench.Proofs.Template.Relabel.Machine
import RenderBench.Template.Basic

/-!
# `Proofs.Template.Naming` — the name of a document

A document read under a name is the document read without one, with the name put in: a relabelling. What is rendered
from it is the relabelled rendering, for the documents that a template asks for have names already, and what a
rendering is given holds no names of files.

## Contents
- `blocks_discreet`: the blocks of a document do not inherit.
- `naming`, `ofText_named`: what has no name yet gets one, and a name does nothing else to a document.
- `renderPart_naming`: what is rendered from a document with a name.
- `ofText_agree`: when there is a document at all.
- `readDocument_name`, `answers_naming`: documents of files have names.
- `Value.Given`: items, data and lists of these.
-/

namespace RenderBench.Template

/-! ## Blocks do not inherit -/

theorem both_ok {c d : Check} (h : (c >>= fun _ => d) = .ok ()) : c = .ok () ∧ d = .ok () := by
  obtain ⟨_, hc, hd⟩ := exists_of_bind_ok h
  exact ⟨hc, hd⟩

/-- What holds of the head of a statement stays, and what its body says is replaced. -/
theorem and_imp_right {a b c : Bool} (h : (a && b) = true) (hbody : b = true → c = true) : (a && c) = true :=
  Bool.and_eq_true_iff.mpr ((Bool.and_eq_true_iff.mp h).imp_right hbody)

mutual

/-- A statement that is not outside all blocks does not inherit, so that it does not matter whether it may. -/
theorem discreet_of_check {escape loads : Bool} : ∀ (st : Stmt) {p : Place}, p.top = false →
    checkStmt escape p st = .ok () → st.discreet true loads = true → st.discreet false loads = true
  | .output _, _, _, _, h | .assign _ _, _, _, _, h | .block _ _ _ _ _, _, _, _, h | .embed _ _ _, _, _, _, h
  | .importing _ _, _, _, _, h => h
  | .forLoop target source condition recursive body otherwise, p, hp, hcheck, h => by
    rw [checkStmt_forLoop] at hcheck
    obtain ⟨-, hcheck⟩ := both_ok hcheck
    obtain ⟨-, hcheck⟩ := both_ok hcheck
    obtain ⟨-, hcheck⟩ := both_ok hcheck
    obtain ⟨-, hcheck⟩ := both_ok hcheck
    obtain ⟨hbody, hotherwise⟩ := both_ok hcheck
    simp only [Stmt.discreet, Bool.and_eq_true] at h ⊢
    have hplaces : (p.looped recursive).top = false ∧ (p.afterLoop recursive).top = false := by
      cases recursive <;> exact ⟨rfl, rfl⟩
    exact ⟨h.1, h.2.1, allDiscreet_of_check body hplaces.1 hbody h.2.2.1,
      allDiscreet_of_check otherwise hplaces.2 hotherwise h.2.2.2⟩
  | .branch test body otherwise, p, hp, hcheck, h => by
    obtain ⟨-, hcheck⟩ := both_ok hcheck
    obtain ⟨hbody, hotherwise⟩ := both_ok hcheck
    simp only [Stmt.discreet, Bool.and_eq_true] at h ⊢
    exact ⟨h.1, allDiscreet_of_check (p := p.conditional) body hp hbody h.2.1,
      allDiscreet_of_check (p := p.conditional) otherwise hp hotherwise h.2.2⟩
  | .capture target filter body, p, hp, hcheck, h => by
    rw [checkStmt_capture] at hcheck
    exact and_imp_right h (allDiscreet_of_check body rfl (both_ok hcheck).1)
  | .scope targets values body, p, hp, hcheck, h =>
    and_imp_right h (allDiscreet_of_check body rfl (both_ok hcheck).2)
  | .inherit line parent, p, hp, hcheck, _ => by
    obtain ⟨hnested, -⟩ := both_ok hcheck
    rw [hp] at hnested
    cases hnested
  | .definition name params defaults body, p, hp, hcheck, h => by
    obtain ⟨-, hcheck⟩ := both_ok hcheck
    exact and_imp_right h (allDiscreet_of_check body rfl (both_ok hcheck).2)
  | .callBlock params defaults call body, p, hp, hcheck, h => by
    obtain ⟨-, hcheck⟩ := both_ok hcheck
    obtain ⟨-, hcheck⟩ := both_ok hcheck
    exact and_imp_right h (allDiscreet_of_check body rfl (both_ok hcheck).1)
  | .filterBlock filter body, p, hp, hcheck, h =>
    and_imp_right h (allDiscreet_of_check body rfl (both_ok hcheck).1)
  | .escaping value body, p, hp, hcheck, h =>
    and_imp_right h (allDiscreet_of_check body rfl (both_ok hcheck).2)

theorem allDiscreet_of_check {escape loads : Bool} : ∀ (ss : List Stmt) {p : Place}, p.top = false →
    checkStmts escape p ss = .ok () → Stmt.allDiscreet true loads ss = true → Stmt.allDiscreet false loads ss = true
  | [], _, _, _, _ => rfl
  | st :: ss, p, hp, hcheck, h => by
    have hopen : st.closes p = false := by
      cases st <;> first | rfl | exact (congrArg (· && p.inherits) hp)
    rw [checkStmts_cons, hopen] at hcheck
    obtain ⟨hfirst, hrest⟩ := both_ok hcheck
    simp only [Stmt.allDiscreet, Bool.and_eq_true] at h ⊢
    exact ⟨discreet_of_check st hp hfirst h.1, allDiscreet_of_check ss hp hrest h.2⟩

end

theorem ok_of_checkBlocks {code escape : Bool} {bs : List Block} (h : checkBlocks code escape bs = .ok ()) :
    ∀ b ∈ bs, checkStmts escape (.alone code) b.body = .ok () := by
  induction bs with
  | nil => exact nofun
  | cons b bs ih =>
    obtain ⟨hfirst, hrest⟩ := both_ok h
    intro b' hb'
    cases hb' with
    | head => exact hfirst
    | tail _ htail => exact ih hrest b' htail

/-- **The blocks of a document** do not inherit. -/
theorem blocks_discreet {name : Option String} {escape loads : Bool} {statements : List Stmt} {d : Document}
    (hd : Document.ofStatements name escape statements = .ok d)
    (hblocks : ∀ b ∈ d.blocks, Stmt.allDiscreet true loads b.body = true) :
    ∀ b ∈ d.blocks, Stmt.allDiscreet false loads b.body = true := by
  rw [ofStatements_eq] at hd
  obtain ⟨_, hcheck, hd⟩ := exists_of_bind_ok hd
  cases hd
  obtain ⟨-, hcheck⟩ := both_ok hcheck
  obtain ⟨hcheck, -⟩ := both_ok hcheck
  obtain ⟨-, hcheck⟩ := both_ok hcheck
  exact fun b hb => allDiscreet_of_check b.body rfl (ok_of_checkBlocks hcheck b hb) (hblocks b hb)

/-! ## The name of a document -/

/-- What has no name yet gets one. -/
def naming (name : String) : Relabelling where
  file t := some (t.getD name)
  definition d := d
  definition_name _ := rfl

theorem naming_line (name : String) (n : Nat) : (naming name).line n = n := rfl

theorem naming_relines (name : String) : (naming name).Relines := fun d => (d.reline_same (naming_line name)).symm

theorem relabel_naming (name : String) (d : Document) :
    d.relabel (naming name) = { d with name := some (d.name.getD name) } := by
  rw [Document.relabel, d.reline_same (naming_line name)]
  rfl

/-- A part of a block is rendered from a document with a name as it is from the one without it. -/
theorem renderPart_naming {load load' : String → Eval Document} {name : String} {loads : Bool}
    (hanswers : loads = true → (naming name).Answers load load') {d : Document} (b : Block)
    (hblocks : ∀ b ∈ d.blocks, Stmt.allDiscreet false loads b.body = true) {globals : Bindings}
    (hglobals : ∀ r : Relabelling, relabel r globals = globals) {part : List Stmt}
    (hpart : Stmt.allDiscreet false loads part = true) :
    renderPart load' (d.relabel (naming name)) b part globals =
      relabel (naming name) (renderPart load d b part globals) := by
  have hrender := renderPart_relabel (b := b) (naming_relines name) (fun _ => ⟨rfl, rfl⟩) hanswers hblocks hglobals hpart
  rwa [b.reline_same (naming_line name), Stmt.relineAll_same (naming_line name)] at hrender

theorem ofStatements_named (name : String) (escape : Bool) (statements : List Stmt) :
    Document.ofStatements (some name) escape statements =
      (Document.ofStatements none escape statements).map (Document.relabel (naming name)) := by
  rw [ofStatements_eq, ofStatements_eq]
  cases checkDocument escape (Stmt.foldAll escape statements) (documentBlocks escape statements) with
  | error f => rfl
  | ok u =>
    let d : Document := ⟨none, escape, Stmt.foldAll escape statements, documentBlocks escape statements⟩
    exact congrArg Except.ok (relabel_naming name d).symm

/-- **The name of a document** is nothing but its name. -/
theorem ofText_named (name : String) (escape : Bool) (source : String) :
    Document.ofText (some name) escape source =
      (Document.ofText none escape source).map (Document.relabel (naming name)) := by
  unfold Document.ofText
  cases parseStatements (lexemes source) with
  | error f => rfl
  | ok statements => exact ofStatements_named name escape statements

theorem ofText_name_escape {name : Option String} {escape : Bool} {source : String} {d : Document}
    (h : Document.ofText name escape source = .ok d) : d.name = name ∧ d.escape = escape := by
  unfold Document.ofText at h
  obtain ⟨statements, -, h⟩ := exists_of_bind_ok h
  rw [ofStatements_eq] at h
  obtain ⟨_, -, h⟩ := exists_of_bind_ok h
  cases h
  exact ⟨rfl, rfl⟩

/-- Two readings of one text fail for the same reason or not at all, unless one of them fails for what a constant
    may hide. -/
theorem ofText_agree (name name' : Option String) (escape escape' : Bool) (source : String) :
    (Document.ofText name escape source).map (fun _ => ()) = (Document.ofText name' escape' source).map (fun _ => ()) ∨
      Hidden (Document.ofText name escape source) ∨ Hidden (Document.ofText name' escape' source) := by
  unfold Document.ofText
  cases parseStatements (lexemes source) with
  | error f => exact .inl rfl
  | ok statements => exact ofStatements_agree name name' escape escape' statements

theorem readDocument_name {files : FileStore} {directory : FilePath} {name : String} {d : Document}
    (h : readDocument files directory name = .ok d) : d.name = some name := by
  unfold readDocument at h
  cases hpath : templatePath? directory name with
  | none => simp only [hpath, reduceCtorEq] at h
  | some path =>
    simp only [hpath] at h
    cases hfile : files.readFile? path with
    | none => simp only [hfile, reduceCtorEq] at h
    | some bytes =>
      simp only [hfile] at h
      cases hdecode : decodeUtf8 bytes with
      | error f => simp only [hdecode, reduceCtorEq] at h
      | ok cs =>
        simp only [hdecode] at h
        cases htext : Document.ofText (some name) (isMarkupName name) (String.ofList cs) with
        | error f => simp only [htext, reduceCtorEq] at h
        | ok d' =>
          simp only [htext, Except.ok.injEq] at h
          subst h
          exact (ofText_name_escape htext).1

/-- The documents that a template asks for have names already. -/
theorem answers_naming (name : String) (files : FileStore) (directory : FilePath) :
    (naming name).Answers (loadDocument files directory) (loadDocument files directory) where
  relabels n := by
    unfold loadDocument
    cases h : readDocument files directory n with
    | ok d =>
      -- a document that was read has a name, and keeps it
      refine congrArg Except.ok ?_
      rw [relabel_document, relabel_naming, readDocument_name h, Option.getD_some, ← readDocument_name h]
    | error f => cases f <;> rfl
  named n d h := by
    unfold loadDocument at h
    cases hread : readDocument files directory n with
    | ok d' =>
      simp only [hread, Except.ok.injEq] at h
      subst h
      rw [readDocument_name hread]
      rfl
    | error f =>
      simp only [hread] at h
      cases f <;> cases h

/-! ## What a rendering is given -/

/-- What a rendering is given: items, data and lists of these. -/
inductive Value.Given : Value → Prop where
  | item (i : Item) : Value.Given (.item i)
  | datum (d : Datum) : Value.Given (.ofDatum d)
  | list {vs : List Value} (h : ∀ v ∈ vs, Value.Given v) : Value.Given (.list vs)

variable {r : Relabelling}

mutual

theorem relabel_ofDatum : ∀ d : Datum, (Value.ofDatum d).relabel r = Value.ofDatum d
  | .null | .bool _ | .int _ | .real _ | .text _ | .foreign _ => rfl
  | .list ds => by rw [Value.ofDatum, Value.relabel, Value.relabelAll_eq, relabel_ofDatums ds]
  | .dict es => by rw [Value.ofDatum, Value.relabel, Value.relabelEntries_eq, relabel_ofEntries es]

theorem relabel_ofDatums : ∀ ds : List Datum, (Value.ofDatums ds).map (Value.relabel r) = Value.ofDatums ds
  | [] => rfl
  | d :: ds => by rw [Value.ofDatums, List.map_cons, relabel_ofDatum d, relabel_ofDatums ds]

theorem relabel_ofEntries : ∀ es : List (String × Datum),
    (Value.ofEntries es).map (Prod.map (Value.relabel r) (Value.relabel r)) = Value.ofEntries es
  | [] => rfl
  | (k, d) :: es => by
    rw [Value.ofEntries, List.map_cons, relabel_ofEntries es, Prod.map, relabel_ofDatum d]
    rfl

end

/-- What a rendering is given holds no names of files. -/
theorem Value.Given.relabel {v : Value} (h : v.Given) : v.relabel r = v := by
  induction h with
  | item i => rfl
  | datum d => exact relabel_ofDatum d
  | list h ih =>
    rw [Value.relabel, Value.relabelAll_eq]
    exact congrArg Value.list ((List.map_congr_left (g := id) ih).trans (List.map_id _))

end RenderBench.Template
