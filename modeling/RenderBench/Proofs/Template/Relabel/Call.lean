import RenderBench.Proofs.Template.Relabel.Regime
import RenderBench.Proofs.Template.Expression

/-!
# `Proofs.Template.Relabel.Call` — calls under a relabelling

A call renders statements in a scope that is made for it, one call further down. So it is assumed of the machine that
renders them that it respects the relabelling, which the induction on the depth of calls will give.

## Contents
- `Fits`: scopes that the statements of a regime are rendered in.
- `Machine.Respects`: what one machine does in a relabelled scope is what another one does, relabelled.
- `callDefinition_relabel`, `callBlock_relabel`: definitions and blocks.
- `callValue_relabel`: calls of any value.
-/

namespace RenderBench.Template

variable {α β : Type} {g : Regime} {r : Relabelling} {m m' : Machine} {s : Scope}

instance : Labelled CallValues := ⟨fun r c => ⟨c.args.map (Value.relabel r), relabel r c.named⟩⟩

/-- Whether a block is named and made as a regime allows. -/
def Block.allowed (g : Regime) (b : Block) : Bool := g.reach b.name && Stmt.allAllowed g b.body

/-- A scope that the statements of a regime are rendered in. -/
structure Fits (g : Regime) (r : Relabelling) (s : Scope) : Prop where
  kept : s.relabel g.keeper = s
  blocks : ∀ n, g.Asks (g.reach n) → ∀ b ∈ s.sources n, g.Asks (b.block.allowed g)
  current : ∀ name level, s.current = some (name, level) → g.Asks (g.reach name)
  title : g.own = false → r.file s.template = s.template

/-- A relabelling that leaves no block out, and otherwise changes what another one does. -/
def Relabelling.opened (r : Relabelling) : Relabelling :=
  { r with keeps := fun _ => true, shows := fun _ => true }

theorem whole_opened : r.opened.Whole := fun _ => ⟨rfl, rfl⟩

/-- What one machine does in a relabelled scope is what another one does, relabelled. A document of its own has blocks
    of its own, of which none is left out. -/
structure Machine.Respects (g : Regime) (r : Relabelling) (m m' : Machine) : Prop where
  run : ∀ {s ss}, Fits g r s → g.Asks (Stmt.allAllowed g ss) →
    m'.run (s.relabel r) (Stmt.relineAll r.line ss) = relabel r (m.run s ss)
  evaluate : ∀ {s e}, Fits g r s → g.Asks (e.allowed g) →
    m'.evaluate (s.relabel r) (e.reline r.line) = relabel r (m.evaluate s e)
  load : g.Asks g.loads → ∀ name, m'.load name = relabel r (m.load name)
  loaded : g.Asks g.loads → ∀ {name d}, m.load name = .ok d → r.file d.name = d.name
  runDocument : g.Asks g.loads → ∀ {s d}, s.relabel g.keeper.opened = s → r.file s.template = s.template →
    m'.runDocument (s.relabel r.opened) (relabel r d) = relabel r (m.runDocument s d)

/-- A change of scope that leaves the blocks and the template alone. -/
theorem Fits.of_step (hs : Fits g r s) {f : Scope → Scope}
    (hf : f (s.relabel g.keeper) = (f s).relabel g.keeper) (hblocks : (f s).blocks = s.blocks)
    (htemplate : (f s).template = s.template)
    (hcurrent : ∀ name level, (f s).current = some (name, level) → g.Asks (g.reach name)) : Fits g r (f s) where
  kept := by rw [← hf, hs.kept]
  blocks n hn b hb := hs.blocks n hn b (by rwa [Scope.sources, hblocks] at hb)
  current := hcurrent
  title hown := htemplate ▸ hs.title hown

theorem Fits.inside (hs : Fits g r s) {names : Bindings} (hn : Kept g names) : Fits g r (s.inside names) := by
  refine hs.of_step (f := fun s => s.inside names) ?_ rfl rfl hs.current
  rw [← Scope.inside_relabel, hn]

theorem Fits.forBlock (hs : Fits g r s) {b : BlockSource} (level : Nat) {globals : Bindings} (hn : Kept g globals)
    (hb : g.Asks (b.block.allowed g)) : Fits g r (s.forBlock b level globals) := by
  have hsource : b.relabel g.keeper = b :=
    congrArg (fun block => { b with block }) (Block.reline_same g.keeper_line b.block)
  refine hs.of_step (f := fun s => s.forBlock b level globals) ?_ rfl rfl fun name level h => ?_
  · rw [← Scope.forBlock_relabel, hn, hsource]
  · cases h
    exact (Regime.asks_and.mp hb).1

theorem Fits.keeper (hs : Fits g r s) : Fits g g.keeper s := ⟨hs.kept, hs.blocks, hs.current, fun _ => rfl⟩

/-- A step and then another one, which may use what the first one has found. -/
theorem bind_relabel_of_ok [Labelled α] [Labelled β] {x x' : Eval α} {f f' : α → Eval β} (hx : x' = relabel r x)
    (hf : ∀ a, x = .ok a → f' (relabel r a) = relabel r (f a)) : (x' >>= f') = relabel r (x >>= f) := by
  subst hx
  cases x with
  | ok a => exact hf a rfl
  | error e => rfl

/-! ## Calls -/

theorem wholeOf_relabel (v : Value) : wholeOf (v.relabel r) = relabel r (wholeOf v) := by
  have hwhole (v : Value) : wholeOf v = v.whole?.elim (.error (.notIndex v.kind)) .ok := by
    cases v <;> rfl
  rw [hwhole, hwhole, Value.whole?_relabel, Value.kind_relabel]
  cases v.whole? <;> rfl

theorem relabel_rangeOf (bounds : List Int) (given : Nat) :
    relabel r (rangeOf bounds given) = rangeOf bounds given := by
  unfold rangeOf
  split
  · rfl
  · rfl
  · split <;> rfl
  · rfl
  · rfl

theorem callRange_relabel (c : CallValues) : callRange (relabel r c) = relabel r (callRange c) := by
  obtain ⟨args, named⟩ := c
  cases named with
  | cons p ps => rfl
  | nil =>
    show callRange ⟨relabel r args, []⟩ = _
    have htake : (relabel r args).take 3 = relabel r (args.take 3) := List.map_take.symm
    rw [callRange_open, callRange_open, htake, relabel_list, List.length_map]
    refine bind_relabel (mapM_relabel wholeOf_relabel _) fun bounds => ?_
    rw [relabel_rangeOf, relabel_list, relabel_int, List.map_id]

/-- The value whose turn it is, if there is one. -/
def turnOf : Option Value → Eval Value
  | some v => .ok v
  | none => .error .noCycle

theorem callCycle_relabel (index : Nat) (c : CallValues) :
    callCycle index (relabel r c) = relabel r (callCycle index c) := by
  obtain ⟨args, named⟩ := c
  cases named with
  | cons p ps => rfl
  | nil =>
    have hcycle (args : List Value) : callCycle index ⟨args, []⟩ = turnOf args[index % args.length]? := rfl
    have hrelabel : relabel r (⟨args, []⟩ : CallValues) = ⟨args.map (Value.relabel r), []⟩ := rfl
    rw [hrelabel, hcycle, hcycle, List.length_map, List.getElem?_map]
    cases args[index % args.length]? <;> rfl

theorem paramValue_relabel (hm : m.Respects g r m') (hs : Fits g r s) (named : List (String × Value))
    {done : Bindings} (hdone : Kept g done) (p : String) {d : Option Expr}
    (hd : ∀ e, d = some e → g.Asks (e.allowed g)) :
    paramValue m' (s.relabel r) (relabel r named) (relabel r done) p (d.map (Expr.reline r.line)) =
      relabel r (paramValue m s named done p d) := by
  unfold paramValue
  rw [lookup_named_relabel]
  cases named.lookup p with
  | some v => rfl
  | none =>
    cases d with
    | none => rfl
    | some e => exact hm.evaluate (hs.inside hdone) (hd e rfl)

theorem bindParams_relabel (hk : m.Respects g g.keeper m) (hm : m.Respects g r m') (hs : Fits g r s)
    {named : List (String × Value)} (hnamed : Kept g named) :
    ∀ (ps : List String) (ds : List (Option Expr)) (args : List Value) (done : Bindings),
      (∀ e, some e ∈ ds → g.Asks (e.allowed g)) → Kept g args → Kept g done →
      bindParams m' (s.relabel r) (relabel r named) ps (ds.map (Option.map (Expr.reline r.line))) (relabel r args)
          (relabel r done) =
        relabel r (bindParams m s named ps ds args done)
  | [], ds, args, done, _, _, _ => rfl
  | p :: ps, [], args, done, _, _, _ => rfl
  | p :: ps, d :: ds, v :: vs, done, hds, hargs, hdone => by
    have hrest : ∀ e, some e ∈ ds → g.Asks (e.allowed g) := fun e he => hds e (List.mem_cons_of_mem d he)
    obtain ⟨hv, hvs⟩ := kept_cons.mp hargs
    exact bindParams_relabel hk hm hs hnamed ps ds vs ((p, v) :: done) hrest hvs
      (kept_cons.mpr ⟨kept_prod.mpr ⟨rfl, hv⟩, hdone⟩)
  | p :: ps, d :: ds, [], done, hds, _, hdone => by
    have hd : ∀ e, d = some e → g.Asks (e.allowed g) := fun e he => hds e (he ▸ List.mem_cons_self ..)
    have hrest : ∀ e, some e ∈ ds → g.Asks (e.allowed g) := fun e he => hds e (List.mem_cons_of_mem d he)
    -- a default value is kept as well: it is evaluated in the same scope
    have hkept := paramValue_relabel hk hs.keeper named hdone p hd
    rw [hs.kept, hnamed, hdone, Expr.relineOption_same g.keeper_line] at hkept
    show bindParams m' (s.relabel r) (relabel r named) (p :: ps) (d.map _ :: ds.map _) [] (relabel r done) = _
    rw [bindParams_open, bindParams_open]
    refine bind_relabel_of_ok (paramValue_relabel hm hs named hdone p hd) fun v hv => ?_
    rw [hv] at hkept
    exact bindParams_relabel hk hm hs hnamed ps ds [] ((p, v) :: done) hrest kept_nil
      (kept_cons.mpr ⟨kept_prod.mpr ⟨rfl, kept_ok.mp hkept.symm⟩, hdone⟩)

theorem Scope.outside_relabel (s : Scope) (d : Definition) :
    (s.relabel r).outside d = (s.outside d).relabel r := by
  simp only [outside, relabel, relabel_list, List.length_map, List.map_drop, Option.map_none]

theorem Fits.outside (hs : Fits g r s) (d : Definition) : Fits g r (s.outside d) :=
  hs.of_step (f := fun s => s.outside d) (Scope.outside_relabel s d) rfl rfl hs.current

theorem Definition.extra_relabel (d : Definition) (c : CallValues) :
    d.extra (relabel r c) = relabel r (d.extra c) := by
  obtain ⟨args, named⟩ := c
  show (named.map _).filter _ = (named.filter _).map _
  rw [List.filter_map]
  simp only [Function.comp_def, Prod.map, relabel, List.length_map]

theorem Definition.callerOf_relabel (d : Definition) (c : CallValues) :
    d.callerOf (relabel r c) = relabel r (d.callerOf c) := by
  have hcaller := lookup_named_relabel (r := r) c.named "caller"
  show (if d.takesCaller then [("caller", ((relabel r c.named).lookup "caller").getD (.absent .caller))] else []) = _
  rw [hcaller, getD_absent_relabel _ rfl, callerOf]
  split <;> rfl

/-! ## The text of a definition -/

@[simp] theorem text_relabel [Labelled α] (t : Trace α) : (relabel r t).text = relabel r t.text := by
  obtain ⟨chunks, result⟩ := t
  cases result <;> rfl

namespace Definition

variable {f : Nat → Nat} (d : Definition)

theorem takesCaller_reline : (d.reline f).takesCaller = d.takesCaller := by
  rw [takesCaller, reline, Stmt.anyMentions_reline, takesCaller]

theorem extra_reline (c : CallValues) : (d.reline f).extra c = d.extra c := by
  rw [extra, takesCaller_reline, extra]
  rfl

theorem callerOf_reline (c : CallValues) : (d.reline f).callerOf c = d.callerOf c := by
  rw [callerOf, takesCaller_reline, callerOf]

theorem allDefaults_reline : (d.reline f).allDefaults = d.allDefaults.map (Option.map (Expr.reline f)) := by
  rw [allDefaults, reline, Expr.relineAll_eq, List.length_map, List.map_map, allDefaults, List.map_append,
    List.map_replicate, List.map_map]
  rfl

end Definition

theorem Definition.asks_allDefaults {d : Definition} (hd : g.Asks (d.allowed g)) (e : Expr)
    (he : some e ∈ d.allDefaults) : g.Asks (e.allowed g) := by
  have hmem : e ∈ d.defaults := by
    cases List.mem_append.mp he with
    | inl hnone => exact nomatch List.eq_of_mem_replicate hnone
    | inr hsome =>
      obtain ⟨e', he', heq⟩ := List.mem_map.mp hsome
      exact Option.some.inj heq ▸ he'
  exact Regime.asks_of_mem (Regime.asks_and.mp hd).1 hmem

theorem definitionText_relabel (hk : m.Respects g g.keeper m) (hm : m.Respects g r m') (hs : Fits g r s)
    {d : Definition} (hd : g.Asks (d.allowed g)) {c : CallValues} (hc : Kept g c) :
    definitionText m' (s.relabel r) (d.reline r.line) (relabel r c) = relabel r (definitionText m s d c) := by
  have hargs : Kept g c.args := congrArg CallValues.args hc
  have hnamed : Kept g c.named := congrArg CallValues.named hc
  have hcaller : Kept g (d.callerOf c) := by rw [Kept, ← Definition.callerOf_relabel, hc]
  have houtside := hs.outside d
  have hscope : (s.relabel r).outside (d.reline r.line) = (s.outside d).relabel r := Scope.outside_relabel s d
  have hdefaults := Definition.asks_allDefaults hd
  have hbound := bindParams_relabel hk hk houtside.keeper hnamed d.params d.allDefaults c.args (d.callerOf c)
    hdefaults hargs hcaller
  rw [houtside.kept, hnamed, hargs, hcaller, List.map_id'' (Expr.relineOption_same g.keeper_line)] at hbound
  unfold definitionText
  rw [hscope, Definition.callerOf_reline, Definition.callerOf_relabel, Definition.allDefaults_reline]
  refine bind_relabel_of_ok (bindParams_relabel hk hm houtside hnamed d.params d.allDefaults c.args
    (d.callerOf c) hdefaults hargs hcaller) fun bound hb => ?_
  rw [hb] at hbound
  have hinside := houtside.inside (kept_ok.mp hbound.symm)
  refine bind_relabel ?_ fun t => ?_
  · rw [Scope.inside_relabel, ← text_relabel]
    exact congrArg Trace.text (hm.run hinside (Regime.asks_and.mp hd).2)
  · exact congrArg Except.ok (Scope.relabel_composed s t).symm

theorem callDefinition_relabel (hk : m.Respects g g.keeper m) (hm : m.Respects g r m') (hs : Fits g r s)
    {d : Definition} (hd : g.Asks (d.allowed g)) {c : CallValues} (hc : Kept g c) :
    callDefinition m' (s.relabel r) (d.reline r.line) (relabel r c) = relabel r (callDefinition m s d c) := by
  have hlength : (relabel r c).args.length = c.args.length := List.length_map ..
  rw [callDefinition_open, callDefinition_open, Definition.extra_reline, Definition.extra_relabel, hlength,
    definitionText_relabel hk hm hs hd hc]
  cases d.extra c with
  | cons p ps => rfl
  | nil =>
    show (if d.params.length < c.args.length then _ else _) =
      relabel r (if d.params.length < c.args.length then _ else _)
    split <;> rfl

/-! ## Blocks -/

theorem blockText_relabel (hr : r.Spares g) (hm : m.Respects g r m') (hs : Fits g r s) {name : String}
    (hname : g.Asks (g.reach name)) (level : Nat) :
    blockText m' (s.relabel r) name level = relabel r (blockText m s name level) := by
  rw [blockText, Scope.sources_relabel s (hr.has name hname).shows, List.getElem?_map, blockText]
  cases hb : (s.sources name)[level]? with
  | none => rfl
  | some b =>
    have hglobals : Kept g s.globals := congrArg Scope.globals hs.kept
    have hallowed := hs.blocks name hname b (List.mem_of_getElem? hb)
    have hrun := hm.run (hs.forBlock level hglobals hallowed) (Regime.asks_and.mp hallowed).2
    refine bind_relabel ?_ fun t => ?_
    · rw [← text_relabel, ← hrun]
      rfl
    · exact congrArg Except.ok (Scope.relabel_composed s t).symm

theorem callBlock_relabel (hr : r.Spares g) (hm : m.Respects g r m') (hs : Fits g r s) {name : String}
    (hname : g.Asks (g.reach name)) (level : Nat) (c : CallValues) :
    callBlock m' (s.relabel r) name level (relabel r c) = relabel r (callBlock m s name level c) := by
  have htext := blockText_relabel hr hm hs hname level
  obtain ⟨args, named⟩ := c
  rw [callBlock_open, callBlock_open]
  cases named with
  | cons p ps => rfl
  | nil =>
    cases args with
    | nil => exact htext
    | cons v vs =>
      show (.error (.tooManyArguments _ 1 1 ((vs.map (Value.relabel r)).length + 1 + 1)) : Eval Value) = _
      rw [List.length_map]
      rfl

/-- A reference that the regime's own relabelling leaves alone is one to a block that may be reached. -/
theorem asks_of_kept_blockRef {name : String} {level : Nat} (h : Kept g (Value.blockRef name level)) :
    g.Asks (g.reach name) := by
  have hlevel : (if g.keeper.keeps name then level else level + 1) = level := (Value.blockRef.inj h).2
  rw [← Regime.keeper_keeps]
  cases hname : g.keeper.keeps name with
  | true => rfl
  | false =>
    rw [hname] at hlevel
    exact absurd hlevel (Nat.succ_ne_self level)

theorem callValue_relabel (hr : r.Spares g) (hk : m.Respects g g.keeper m) (hm : m.Respects g r m')
    (hs : Fits g r s) {f : Value} (hf : Kept g f) {c : CallValues} (hc : Kept g c) :
    callValue m' (s.relabel r) (f.relabel r) (relabel r c) = relabel r (callValue m s f c) := by
  cases f with
  | rangeFunction => exact callRange_relabel c
  | cycle index => exact callCycle_relabel index c
  | definition d =>
    have hd := Regime.asks_of_keeper (Value.definition.inj hf)
    rw [Value.relabel, hr.definition d hd]
    exact callDefinition_relabel hk hm hs hd hc
  | blockRef name level =>
    have hname := asks_of_kept_blockRef hf
    rw [Value.relabel, if_pos (hr.has name hname).keeps]
    exact callBlock_relabel hr hm hs hname level c
  | caller body =>
    cases body with
    | error f => rfl
    | ok t => exact congrArg Except.ok (Scope.relabel_composed s t).symm
  | _ => rfl

end RenderBench.Template
