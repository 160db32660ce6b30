import RenderBench.Proofs.Template.Lines
import RenderBench.Proofs.Template.Relabel.AllFilters

/-!
# `Proofs.Template.Relabel.Scope` — scopes and assignment under a relabelling

A scope holds names of files: that of its template, and those of the documents its blocks come from. The name of the
template is looked up in one way only, as the template itself, and even then its blocks are reached under any name. A
scope holds blocks too, of which a relabelling may leave some out; then only references to the others may be followed.

## Contents
- `Document.relabel`, `Scope.relabel`: names, lines and blocks in documents and scopes.
- `Relabelling.Covers`: relabellings that leave no block out that is referred to.
- `Scope.lookup_relabel`: names other than that of the template itself, or all names if its own name stays.
- `Scope.element_relabel`: elements.
- `Scope.member_lookup_relabel`: the blocks of the template itself.
- `Scope.inheritFrom_relabel`, `Scope.ofDocument_relabel`: scopes of documents.
- `bindTarget_relabel`: assignment.
-/

namespace RenderBench.Template

variable {α β : Type} {r k : Relabelling} (s : Scope) (v w : Value)

def Document.relabel (r : Relabelling) (d : Document) : Document := { d.reline r.line with name := r.file d.name }

def BlockSource.relabel (r : Relabelling) (b : BlockSource) : BlockSource :=
  { b with block := b.block.reline r.line, file := r.file b.file }

def Scope.relabel (r : Relabelling) (s : Scope) : Scope :=
  { s with
    file := r.file s.file
    template := r.file s.template
    globals := Labelled.relabel r s.globals
    blocks := (s.blocks.filter fun b => r.shows b.1).map (Prod.map id (List.map (BlockSource.relabel r)))
    frames := Labelled.relabel r s.frames
    captured := s.captured.relabel r
    parent := s.parent.map (Document.relabel r) }

instance : Labelled Document := ⟨Document.relabel⟩
instance : Labelled Scope := ⟨Scope.relabel⟩

@[simp] theorem relabel_document : (relabel r : Document → Document) = Document.relabel r := rfl
@[simp] theorem relabel_scope : (relabel r : Scope → Scope) = Scope.relabel r := rfl

/-- A block that values may refer to, and that scopes show. -/
structure Relabelling.Has (r : Relabelling) (n : String) : Prop where
  keeps : r.keeps n = true
  shows : r.shows n = true

/-- No block is left out that what another relabelling leaves alone may refer to. -/
def Relabelling.Covers (r k : Relabelling) : Prop := ∀ n, k.keeps n = true → r.Has n

/-- No block is left out. -/
def Relabelling.Whole (r : Relabelling) : Prop := ∀ n, r.Has n

namespace Scope

theorem lookup_filter_fst {names : List (String × β)} {p : String → Bool} {n : String} (h : p n = true) :
    (names.filter fun b => p b.1).lookup n = names.lookup n := by
  induction names with
  | nil => rfl
  | cons b bs ih =>
    obtain ⟨m, x⟩ := b
    by_cases hm : n = m
    · subst hm
      rw [List.filter_cons, if_pos h, List.lookup_cons_self, List.lookup_cons_self]
    · have hne : (n == m) = false := beq_eq_false_iff_ne.mpr hm
      rw [List.lookup_cons, hne, List.filter_cons]
      split
      · rw [List.lookup_cons, hne]
        exact ih
      · exact ih

theorem sources_relabel {n : String} (h : r.shows n = true) :
    (s.relabel r).sources n = (s.sources n).map (BlockSource.relabel r) := by
  have hlookup := lookup_map (List.map (BlockSource.relabel r)) (s.blocks.filter fun b => r.shows b.1) n
  rw [sources, relabel, hlookup, lookup_filter_fst h, sources]
  cases s.blocks.lookup n <;> rfl

theorem blockValue_relabel {n : String} (h : r.shows n = true) (l : Nat) :
    (s.relabel r).blockValue n l = s.blockValue n l := by
  rw [blockValue, sources_relabel s h, List.length_map, blockValue]

theorem relabel_blockValue {n : String} (h : r.keeps n = true) (l : Nat) :
    (s.blockValue n l).relabel r = s.blockValue n l := by
  rw [blockValue]
  split
  · show Value.blockRef n (if r.keeps n then l else l + 1) = _
    rw [if_pos h]
  · rfl

theorem lookupFrames_relabel (fs : List Bindings) (n : String) :
    lookupFrames (Labelled.relabel r fs) n = (lookupFrames fs n).map (Value.relabel r) := by
  induction fs with
  | nil => rfl
  | cons f fs ih =>
    have hfirst := lookup_named_relabel (r := r) f n
    show ((Labelled.relabel r f).lookup n).or (lookupFrames (Labelled.relabel r fs) n) = _
    rw [hfirst, ih, lookupFrames, Option.map_or]

/-- The names of the blocks of a scope that a relabelling leaves. -/
theorem names_relabel : (s.relabel r).blocks.map Prod.fst = (s.blocks.map Prod.fst).filter r.shows := by
  rw [relabel, List.map_map, List.filter_map]
  rfl

/-- Where the template itself may be looked up, its name stays, and no block is left out. -/
structure Tells (r : Relabelling) (s : Scope) : Prop where
  title : r.file s.template = s.template
  whole : r.Whole

theorem special?_relabel {n : String} (h : n = "self" → s.Tells r)
    (hcurrent : ∀ name level, s.current = some (name, level) → r.Has name) :
    (s.relabel r).special? n = (s.special? n).map (Value.relabel r) := by
  by_cases hself : n = "self"
  · obtain ⟨htitle, hwhole⟩ := h hself
    have hshows : (s.blocks.map Prod.fst).filter r.shows = s.blocks.map Prod.fst :=
      List.filter_eq_self.mpr fun name _ => (hwhole name).shows
    have hkeeps : (s.blocks.map Prod.fst).filter r.keeps = s.blocks.map Prod.fst :=
      List.filter_eq_self.mpr fun name _ => (hwhole name).keeps
    rw [special?, special?, if_pos hself, if_pos hself, names_relabel, hshows, Option.map_some, Value.relabel, hkeeps]
    exact congrArg (fun t => some (Value.itself t _)) htitle
  · simp only [special?, if_neg hself]
    split
    · show s.current.map _ = (s.current.map _).map _
      rw [Option.map_map]
      refine Option.map_congr fun b hb => ?_
      have hhas := hcurrent b.1 b.2 hb
      rw [blockValue_relabel s hhas.shows, Function.comp_apply, relabel_blockValue s hhas.keeps]
    · rfl

theorem lookup_relabel {n : String} (h : n = "self" → s.Tells r)
    (hcurrent : ∀ name level, s.current = some (name, level) → r.Has name) :
    (s.relabel r).lookup n = (s.lookup n).relabel r := by
  have hglobals := lookup_named_relabel (r := r) s.globals n
  rw [lookup, special?_relabel s h hcurrent]
  show ((((lookupFrames (Labelled.relabel r s.frames) n).or _).or
    ((Labelled.relabel r s.globals).lookup n)).getD _) = _
  rw [lookupFrames_relabel, hglobals, ← Option.map_or, ← Option.map_or]
  exact getD_absent_relabel _ rfl

/-- Members of a value that refers only to blocks that are left. -/
theorem member_relabel (hcovers : r.Covers k) (hv : v.relabel k = v) (attr : String) :
    (s.relabel r).member (v.relabel r) attr = Labelled.relabel r (s.member v attr) := by
  have hmember := memberOf_relabel (r := r) v attr
  cases v with
  | itself t names =>
    have hnames : names.filter k.keeps = names := (Value.itself.inj hv).2
    have hkeeps : ∀ n ∈ names, r.keeps n = true := fun n hn =>
      (hcovers n (List.filter_eq_self.mp hnames n hn)).keeps
    -- all names of the value are left, so that nothing is taken from them
    have hfilter : names.filter r.keeps = names := List.filter_eq_self.mpr hkeeps
    refine congrArg Except.ok ?_
    show (if (names.filter r.keeps).contains attr then _ else _) = (if names.contains attr then _ else _ : Value).relabel r
    rw [hfilter]
    split
    · rename_i hattr
      have hkept := hkeeps attr (List.contains_iff_mem.mp hattr)
      show _ = Value.blockRef attr (if r.keeps attr then 0 else 1)
      rw [if_pos hkept]
    · rfl
  | blockRef n l =>
    have hlevel : (if k.keeps n then l else l + 1) = l := (Value.blockRef.inj hv).2
    -- a reference to a block that is left out would be at another level
    have hkept : k.keeps n = true := by
      cases hn : k.keeps n with
      | true => rfl
      | false =>
        rw [hn] at hlevel
        exact absurd hlevel (Nat.succ_ne_self l)
    have hhas := hcovers n hkept
    refine congrArg Except.ok ?_
    show (if attr = "super" then (s.relabel r).blockValue n ((if r.keeps n then l else l + 1) + 1) else _) = _
    rw [if_pos hhas.keeps]
    split
    · rw [blockValue_relabel s hhas.shows, relabel_value, relabel_blockValue s hhas.keeps]
    · rfl
  | _ => exact hmember

theorem element_relabel (hcovers : r.Covers k) (hv : v.relabel k = v) :
    (s.relabel r).element (v.relabel r) (w.relabel r) = Labelled.relabel r (s.element v w) := by
  have helement := elementAt_relabel (r := r) v w
  have hmember := member_relabel (r := r) s v hcovers hv
  cases v with
  | itself t names | blockRef n l =>
    cases w with
    | text attr | markup attr => exact hmember attr
    | _ => exact helement
  | _ => exact helement

/-- A block of the template is reached by its name for itself, whatever it is called, if the block is left. -/
theorem member_lookup_relabel {n attr : String} (hcovers : r.Covers k) (hkept : s.relabel k = s)
    (hcurrent : ∀ name level, s.current = some (name, level) → k.keeps name = true)
    (hk : k.Covers k) (hattr : n = "self" → k.keeps attr = true) :
    (s.relabel r).member ((s.relabel r).lookup n) attr = Labelled.relabel r (s.member (s.lookup n) attr) := by
  by_cases hself : n = "self"
  · subst hself
    cases hframes : lookupFrames s.frames "self" with
    | some v =>
      have hlookup : s.lookup "self" = v := by rw [lookup, hframes]; rfl
      have hlookup' : (s.relabel r).lookup "self" = v.relabel r := by
        rw [lookup]
        show ((((lookupFrames (Labelled.relabel r s.frames) "self").or _).or _).getD _) = _
        rw [lookupFrames_relabel, hframes]
        rfl
      -- what a frame holds is kept with the frame
      have hv : v.relabel k = v := by
        have hown := lookupFrames_relabel (r := k) s.frames "self"
        have hsame : Labelled.relabel k s.frames = s.frames := congrArg Scope.frames hkept
        rw [hsame, hframes] at hown
        exact (Option.some.inj hown).symm
      rw [hlookup, hlookup', member_relabel s v hcovers hv]
    | none =>
      have hlookup : s.lookup "self" = .itself s.template (s.blocks.map Prod.fst) := by rw [lookup, hframes]; rfl
      have hlookup' : (s.relabel r).lookup "self" =
          .itself (r.file s.template) ((s.blocks.map Prod.fst).filter r.shows) := by
        rw [lookup]
        show ((((lookupFrames (Labelled.relabel r s.frames) "self").or
          (some (.itself (r.file s.template) ((s.relabel r).blocks.map Prod.fst)))).or _).getD _) = _
        rw [lookupFrames_relabel, hframes, names_relabel]
        rfl
      have hhas := hcovers attr (hattr rfl)
      -- blocks may be missing from the other scope, but not the one that is asked for
      have hcontains : ((s.blocks.map Prod.fst).filter r.shows).contains attr = (s.blocks.map Prod.fst).contains attr := by
        rw [Bool.eq_iff_iff, List.contains_iff_mem, List.contains_iff_mem, List.mem_filter]
        exact and_iff_left hhas.shows
      rw [hlookup, hlookup']
      refine congrArg Except.ok ?_
      rw [hcontains]
      show (if (s.blocks.map Prod.fst).contains attr then _ else _) =
        (if (s.blocks.map Prod.fst).contains attr then _ else _ : Value).relabel r
      split
      · show _ = Value.blockRef attr (if r.keeps attr then 0 else 1)
        rw [if_pos hhas.keeps]
      · rfl
  · have hown := lookup_relabel (r := k) s (fun h => absurd h hself) fun name level h => hk name (hcurrent name level h)
    rw [hkept] at hown
    rw [lookup_relabel s (fun h => absurd h hself) fun name level h => hcovers name (hcurrent name level h),
      member_relabel s _ hcovers hown.symm]

theorem bind_relabel (names : Bindings) :
    (s.relabel r).bind (Labelled.relabel r names) = (s.bind names).relabel r := by
  obtain ⟨file, template, escape, markup, globals, blocks, current, frames, captured, top, parent⟩ := s
  cases frames <;> cases top <;> simp [bind, relabel]

/-- Names whose values hold no labels. -/
theorem bind_relabel_self {names : Bindings} (h : Labelled.relabel r names = names) :
    (s.relabel r).bind names = (s.bind names).relabel r := by
  rw [← bind_relabel, h]

theorem visible_relabel : (s.relabel r).visible = Labelled.relabel r s.visible := by
  simp [visible, relabel, List.map_flatten]

theorem inside_relabel (names : Bindings) :
    (s.relabel r).inside (Labelled.relabel r names) = (s.inside names).relabel r := rfl

theorem kept_relabel : (s.relabel r).kept = s.kept.relabel r := rfl

theorem forBlock_relabel (b : BlockSource) (level : Nat) (globals : Bindings) :
    (s.relabel r).forBlock (b.relabel r) level (Labelled.relabel r globals) =
      (s.forBlock b level globals).relabel r := rfl

/-- The blocks of a scope from which none is left out. -/
theorem blocks_relabel (h : ∀ n, r.shows n = true) :
    (s.relabel r).blocks = s.blocks.map (Prod.map id (List.map (BlockSource.relabel r))) := by
  rw [relabel, List.filter_eq_self.mpr fun b _ => h b.1]

theorem addSource_relabel (entry : String × BlockSource) (blocks : List (String × List BlockSource)) :
    inheritFrom.go (Prod.map id (BlockSource.relabel r) entry)
        (blocks.map (Prod.map id (List.map (BlockSource.relabel r)))) =
      (inheritFrom.go entry blocks).map (Prod.map id (List.map (BlockSource.relabel r))) := by
  induction blocks with
  | nil => rfl
  | cons b bs ih =>
    obtain ⟨n, sources⟩ := b
    simp only [List.map_cons, Prod.map, id_eq, inheritFrom.go] at ih ⊢
    split
    · simp only [List.map_cons, Prod.map, id_eq, List.map_append, List.map_nil]
    · simp only [List.map_cons, Prod.map, id_eq, ih]

theorem blockSources_relabel (d : Document) :
    (d.relabel r).blockSources = d.blockSources.map (Prod.map id (BlockSource.relabel r)) := by
  simp [Document.blockSources, Document.relabel, Document.reline, Block.reline, BlockSource.relabel,
    Function.comp_def]

theorem inheritFrom_relabel (h : ∀ n, r.shows n = true) (d : Document) :
    (s.relabel r).inheritFrom (d.relabel r) = (s.inheritFrom d).relabel r := by
  have hfold (entries : List (String × BlockSource)) (blocks : List (String × List BlockSource)) :
      (entries.map (Prod.map id (BlockSource.relabel r))).foldl (fun blocks e => inheritFrom.go e blocks)
          (blocks.map (Prod.map id (List.map (BlockSource.relabel r)))) =
        (entries.foldl (fun blocks e => inheritFrom.go e blocks) blocks).map
          (Prod.map id (List.map (BlockSource.relabel r))) := by
    rw [List.foldl_map]
    exact List.foldl_hom _ fun blocks e => addSource_relabel e blocks
  have hblocks := hfold d.blockSources s.blocks
  rw [← blockSources_relabel, ← blocks_relabel s h] at hblocks
  have hall := blocks_relabel (s.inheritFrom d) h
  have hscope : (s.inheritFrom d).relabel r =
      { s.relabel r with blocks := ((s.inheritFrom d).relabel r).blocks, parent := some (d.relabel r) } := rfl
  rw [hscope, hall]
  exact congrArg (fun blocks => { s.relabel r with blocks, parent := some (d.relabel r) }) hblocks

theorem ofDocument_relabel (h : ∀ n, r.shows n = true) (d : Document) (globals : Bindings) :
    ofDocument (d.relabel r) (Labelled.relabel r globals) = (ofDocument d globals).relabel r := by
  have hblocks := blocks_relabel (ofDocument d globals) h
  have hscope : (ofDocument d globals).relabel r =
      { ofDocument (d.relabel r) (Labelled.relabel r globals) with
        blocks := ((ofDocument d globals).relabel r).blocks } := rfl
  rw [hscope, hblocks]
  have hsources : ((d.relabel r).blockSources.map fun b => (b.1, [b.2])) =
      (d.blockSources.map fun b => (b.1, [b.2])).map (Prod.map id (List.map (BlockSource.relabel r))) := by
    rw [blockSources_relabel, List.map_map, List.map_map]
    rfl
  exact congrArg (fun blocks => { ofDocument (d.relabel r) (Labelled.relabel r globals) with blocks }) hsources

theorem relabel_composed (t : String) : (s.composed t).relabel r = s.composed t := Value.relabel_ofText _ t

end Scope

/-! ## Assignment -/

theorem unpack_relabel (n : Nat) : unpack (v.relabel r) n = relabel r (unpack v n) := by
  rw [unpack, unpack, elementsOf_relabel, Value.kind_relabel]
  cases elementsOf v with
  | error e => rfl
  | ok e =>
    obtain ⟨vs, failure⟩ := e
    have hlength : (relabel r (⟨vs, failure⟩ : Elements)).values.length = vs.length := List.length_map ..
    simp only [relabel_ok, hlength]
    split
    · rfl
    · cases failure with
      | some f => rfl
      | none =>
        show (if vs.length < n then (.error (.unpackFew n vs.length) : Eval (List Value))
          else .ok (vs.map (Value.relabel r))) = _
        split <;> rfl

mutual

theorem bindTarget_relabel {f : Nat → Nat} : ∀ (t : Target) (v : Value),
    bindTarget (t.reline f) (v.relabel r) = relabel r (bindTarget t v)
  | .name _ _, _ => rfl
  | .tuple ts, v => by
    have hlength : (Target.relineAll f ts).length = ts.length := by rw [Target.relineAll_eq, List.length_map]
    rw [Target.reline, bindTarget, hlength, bindTarget]
    exact bind_relabel (unpack_relabel v ts.length) fun vs => bindTargets_relabel ts vs
  | .member _ _, _ => rfl

theorem bindTargets_relabel {f : Nat → Nat} : ∀ (ts : List Target) (vs : List Value),
    bindTargets (Target.relineAll f ts) (vs.map (Value.relabel r)) = relabel r (bindTargets ts vs)
  | t :: ts, v :: vs => by
    refine bind_relabel (bindTarget_relabel t v) fun first => ?_
    refine bind_relabel (bindTargets_relabel ts vs) fun rest => ?_
    exact congrArg Except.ok List.map_append.symm
  | [], _ => rfl
  | _ :: _, [] => rfl

end

end RenderBench.Template
