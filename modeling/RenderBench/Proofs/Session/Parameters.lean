import RenderBench.Parameters
import RenderBench.Proofs.Lookup
import RenderBench.Proofs.Stepwise

/-!
# `Proofs.Session.Parameters` — the parameters of a session, layer by layer

A parameter is what its override says, before the variant and the default; only the number of items looks at another
parameter, and it does so last. Overrides that are null do not count at all, and the others may come in any order.
Overrides of the kinds that a command line gives make the same parameters by name.

## Contents
- `layered`, `settled`: a parameter on three layers, and the number of items after that.
- `lookup_settled`: the values that are looked up are those of the layers.
- `refused?`, `parametersOf_eq`: which overrides are refused.
- `Override.named`, `named_ofVariant`: overrides of known kinds.
- `parametersOf_layers`: the law of overrides.
-/

namespace RenderBench

variable {v : Variant} {overrides others values : NamedValues} {n : String}

/-! ## Layers -/

/-- The overrides that count. -/
def givenOverrides (overrides : NamedValues) : NamedValues := overrides.filter fun o => !o.2.isNull

/-- A parameter on three layers: its override, the variant, the default. -/
def layered (v : Variant) (overrides : NamedValues) (n : String) : Datum :=
  (((givenOverrides overrides).lookup n).or (v.named.lookup n)).getD ((defaultParameters.lookup n).getD .null)

/-- A parameter in the end: a number of items that is null on all layers is the number of runs. -/
def settled (v : Variant) (overrides : NamedValues) (n : String) : Datum :=
  if n = "item_count" ∧ (layered v overrides "item_count").isNull then layered v overrides "run_count"
  else layered v overrides n

theorem givenOverrides_perm (h : others.Perm overrides) : (givenOverrides others).Perm (givenOverrides overrides) :=
  h.filter _

theorem givenOverrides_idem (overrides : NamedValues) :
    givenOverrides (givenOverrides overrides) = givenOverrides overrides := by
  simp only [givenOverrides, List.filter_filter, Bool.and_self]

theorem nodup_givenOverrides (h : (overrides.map Prod.fst).Nodup) : ((givenOverrides overrides).map Prod.fst).Nodup :=
  h.sublist (List.filter_sublist.map Prod.fst)

theorem not_isNull_of_given {d : Datum} (h : (givenOverrides overrides).lookup n = some d) : d.isNull = false := by
  have hmem := (List.mem_filter.mp (mem_of_lookup h)).2
  exact Bool.not_eq_true' _ ▸ hmem

/-- The number of runs is never null: a variant has one. -/
theorem layered_runCount (v : Variant) (overrides : NamedValues) :
    (layered v overrides "run_count").isNull = false := by
  unfold layered
  cases h : (givenOverrides overrides).lookup "run_count" with
  | some d => exact not_isNull_of_given h
  | none => rfl

theorem settled_itemCount (v : Variant) (overrides : NamedValues) :
    (settled v overrides "item_count").isNull = false := by
  unfold settled
  by_cases h : (layered v overrides "item_count").isNull
  · rw [if_pos ⟨rfl, h⟩]
    exact layered_runCount v overrides
  · rw [if_neg fun hboth => h hboth.2]
    exact Bool.eq_false_iff.mpr h

/-! ## What is looked up -/

theorem lookup_layers (hnames : (overrides.map Prod.fst).Nodup) (n : String) :
    ((givenOverrides overrides).reverse ++ v.named).lookup n =
      ((givenOverrides overrides).lookup n).or (v.named.lookup n) := by
  rw [List.lookup_append, lookup_perm (nodup_givenOverrides hnames) (List.reverse_perm _)]

/-- The layers above the defaults give a number of items and of runs. -/
theorem lookup_named_counts (v : Variant) {n : String} (h : n = "item_count" ∨ n = "run_count") :
    ∃ d, v.named.lookup n = some d := by
  rcases h with rfl | rfl
  · exact ⟨_, rfl⟩
  · exact ⟨_, rfl⟩

theorem getD_lookup_layers (hnames : (overrides.map Prod.fst).Nodup) (h : n = "item_count" ∨ n = "run_count") :
    (((givenOverrides overrides).reverse ++ v.named).lookup n).getD .null = layered v overrides n := by
  obtain ⟨d, hd⟩ := lookup_named_counts v h
  rw [lookup_layers hnames, layered, hd]
  cases (givenOverrides overrides).lookup n with
  | some e => rfl
  | none => rfl

/-- **What is looked up** is what the layers say, the number of items being settled last. -/
theorem lookup_settled (hnames : (overrides.map Prod.fst).Nodup) (n : String) :
    ((countItems ((givenOverrides overrides).reverse ++ v.named)).lookup n).getD
      ((defaultParameters.lookup n).getD .null) = settled v overrides n := by
  unfold countItems settled
  rw [getD_lookup_layers hnames (.inl rfl), getD_lookup_layers hnames (.inr rfl)]
  by_cases hitems : (layered v overrides "item_count").isNull
  · rw [if_pos hitems, lookup_pair]
    by_cases hn : n = "item_count"
    · rw [if_pos hn, if_pos ⟨hn, hitems⟩]
      rfl
    · rw [if_neg hn, if_neg fun hboth => hn hboth.1, lookup_layers hnames, layered]
  · rw [if_neg hitems, if_neg fun hboth => hitems hboth.2, lookup_layers hnames, layered]

/-! ## Names that are refused -/

/-- The override that is refused first. -/
def refused? (overrides : NamedValues) : Option String :=
  ((givenOverrides overrides).map Prod.fst).find? fun n => !parameterNames.contains n

theorem refused?_eq_none_iff :
    refused? overrides = none ↔ ∀ o ∈ overrides, o.2.isNull = false → o.1 ∈ parameterNames := by
  rw [refused?, List.find?_eq_none]
  simp only [givenOverrides, List.mem_map, List.mem_filter, Bool.not_eq_true', Bool.not_eq_false,
    List.contains_iff_mem, forall_exists_index, and_imp]
  constructor
  · intro h o ho hnull
    exact h o.1 o ho hnull rfl
  · rintro h _ o ho hnull rfl
    exact h o ho hnull

theorem of_refused? {n : String} (h : refused? overrides = some n) :
    ∃ o ∈ overrides, o.2.isNull = false ∧ o.1 ∉ parameterNames ∧ o.1 = n := by
  obtain ⟨o, ho, rfl⟩ := List.mem_map.mp (List.mem_of_find?_eq_some h)
  have hname : ¬ parameterNames.contains o.1 = true := by simpa using List.find?_some h
  obtain ⟨hmem, hnull⟩ := List.mem_filter.mp ho
  exact ⟨o, hmem, by simpa using hnull, fun hin => hname (List.contains_iff_mem.mpr hin), rfl⟩

theorem parametersOf_eq (v : Variant) (overrides : NamedValues) :
    parametersOf v overrides = (refused? overrides).elim
      (.ok (defaultParameters.map fun p =>
        (p.1, ((countItems ((givenOverrides overrides).reverse ++ v.named)).lookup p.1).getD p.2)))
      fun n => .error ⟨"RunConfig", .ofName n⟩ := by
  unfold parametersOf checkArguments refused?
  simp only [List.contains_nil, Bool.false_or]
  rw [← givenOverrides]
  cases ((givenOverrides overrides).map Prod.fst).find? fun n => !parameterNames.contains n with
  | some n => rfl
  | none => rfl

theorem nodup_parameterNames : parameterNames.Nodup := by decide

/-- The parameters that overrides make which are not refused. -/
theorem parametersOf_of_accepted (hnames : (overrides.map Prod.fst).Nodup) (h : refused? overrides = none) :
    parametersOf v overrides = .ok (parameterNames.map fun n => (n, settled v overrides n)) := by
  rw [parametersOf_eq, h, Option.elim_none, parameterNames, List.map_map]
  refine congrArg Except.ok (List.map_congr_left fun p hp => ?_)
  have hdefault : defaultParameters.lookup p.1 = some p.2 := lookup_eq_some_of_nodup nodup_parameterNames hp
  show (p.1, _) = (p.1, settled v overrides p.1)
  rw [← lookup_settled hnames p.1, hdefault]
  rfl

theorem lookup_map_names (f : String → Datum) (names : List String) (h : n ∈ names) :
    (names.map fun n => (n, f n)).lookup n = some (f n) := by
  induction names with
  | nil => nomatch h
  | cons m names ih =>
    rw [List.map_cons, lookup_pair]
    by_cases hn : n = m
    · rw [if_pos hn, hn]
    · rw [if_neg hn]
      exact ih ((List.mem_cons.mp h).resolve_left hn)

theorem refused?_perm (h : others.Perm overrides) : refused? others = none ↔ refused? overrides = none := by
  simp only [refused?_eq_none_iff, h.mem_iff]

theorem settled_perm (hnames : (overrides.map Prod.fst).Nodup) (h : others.Perm overrides) (n : String) :
    settled v others n = settled v overrides n := by
  have hlayered (n : String) : layered v others n = layered v overrides n := by
    rw [layered, layered, lookup_perm (nodup_givenOverrides hnames) (givenOverrides_perm h)]
  rw [settled, settled, hlayered, hlayered, hlayered]

/-! ## Overrides of known kinds -/

/-- The values of an override by name. -/
def Override.named : Override → String × Datum
  | .templatePath p => ("template_path", .ofOption .text p)
  | .subTemplate s => ("sub_template", .ofOption .text s)
  | .itemCount n => ("item_count", .ofOption .int n)
  | .runCount n => ("run_count", .ofOption .int n)
  | .shape s => ("shape", .ofOption .text s)
  | .warmupRuns n => ("warmup_runs", .ofOption .int n)
  | .sampleMemory b => ("sample_memory", .ofOption .bool b)
  | .traceAllocations b => ("trace_allocations", .ofOption .bool b)
  | .label t => ("label", .ofOption .text t)
  | .other name given => (name, if given then .bool true else .null)

/-- An override that is said to name no parameter names none. -/
def Override.WellNamed : Override → Prop
  | .other name _ => name ∉ parameterNames
  | _ => True

/-- The parameters of a session are those that are looked up by name. -/
theorem RunConfig.named_eq (c : RunConfig) :
    c.named = parameterNames.map fun n => (n, (c.named.lookup n).getD .null) := rfl

theorem parameterNames_cases (h : n ∈ parameterNames) :
    n = "template_path" ∨ n = "sub_template" ∨ n = "item_count" ∨ n = "run_count" ∨ n = "shape" ∨
      n = "warmup_runs" ∨ n = "sample_memory" ∨ n = "trace_allocations" ∨ n = "label" := by
  simpa [parameterNames, defaultParameters, RunConfig.named] using h

/-- One override changes the parameter that it names, if it has a value. -/
theorem lookup_apply {o : Override} (h : o.WellNamed) (c : RunConfig) (hn : n ∈ parameterNames) :
    (c.apply o).named.lookup n =
      if n = o.named.1 ∧ o.named.2.isNull = false then some o.named.2 else c.named.lookup n := by
  cases o with
  | other name given =>
    have hne : n ≠ name := fun heq => h (heq ▸ hn)
    rw [if_neg fun hboth => hne hboth.1]
    rfl
  | templatePath a | subTemplate a | itemCount a | runCount a | shape a | warmupRuns a | sampleMemory a
  | traceAllocations a | label a =>
    cases a with
    | none => exact (if_neg fun hboth => Bool.noConfusion hboth.2).symm
    | some x => rcases parameterNames_cases hn with rfl | rfl | rfl | rfl | rfl | rfl | rfl | rfl | rfl <;> rfl

variable {typed : List Override}

theorem givenOverrides_cons (o : String × Datum) (overrides : NamedValues) :
    givenOverrides (o :: overrides) =
      if o.2.isNull = false then o :: givenOverrides overrides else givenOverrides overrides := by
  rw [givenOverrides, List.filter_cons]
  cases o.2.isNull <;> rfl

/-- What overrides that are refused are refused for. -/
theorem refused?_named (h : ∀ o ∈ typed, o.WellNamed) :
    refused? (typed.map Override.named) = typed.findSome? Override.unknown? := by
  induction typed with
  | nil => rfl
  | cons o typed ih =>
    have hrest := ih fun o ho => h o (List.mem_cons_of_mem _ ho)
    -- the name of a parameter is never refused, whatever is given for it
    have hskip (hname : o.named.1 ∈ parameterNames) :
        refused? ((o :: typed).map Override.named) = refused? (typed.map Override.named) := by
      have haccepted : ¬ (!parameterNames.contains o.named.1) = true := by simpa using hname
      rw [List.map_cons, refused?, givenOverrides_cons]
      split
      · rw [List.map_cons, List.find?_cons_of_neg (p := fun n => !parameterNames.contains n) haccepted, refused?]
      · rw [refused?]
    cases o with
    | other name given =>
      have hname : name ∉ parameterNames := h _ List.mem_cons_self
      cases given with
      | false => exact hrest
      | true =>
        have hfound : (!parameterNames.contains name) = true := by simpa using hname
        exact List.find?_cons_of_pos hfound
    | _ =>
      rw [hskip (by simp [Override.named, parameterNames, defaultParameters, RunConfig.named]), hrest]
      rfl

/-- The parameters after overrides, by name. -/
theorem lookup_foldl_apply (h : ∀ o ∈ typed, o.WellNamed) (hnames : ((typed.map Override.named).map Prod.fst).Nodup)
    (c : RunConfig) (hn : n ∈ parameterNames) :
    (typed.foldl RunConfig.apply c).named.lookup n =
      ((givenOverrides (typed.map Override.named)).lookup n).or (c.named.lookup n) := by
  induction typed generalizing c with
  | nil => rfl
  | cons o typed ih =>
    obtain ⟨hfirst, hrest⟩ := List.nodup_cons.mp hnames
    rw [List.foldl_cons, ih (fun o ho => h o (List.mem_cons_of_mem _ ho)) hrest, lookup_apply (h o List.mem_cons_self) c hn,
      List.map_cons, givenOverrides_cons]
    by_cases hgiven : o.named.2.isNull = false
    · rw [if_pos hgiven, lookup_pair]
      by_cases hname : n = o.named.1
      · -- no later override has the name
        have hlater : (givenOverrides (typed.map Override.named)).lookup n = none := by
          rw [List.lookup_eq_none_iff]
          intro p hp
          have hmem := List.mem_map_of_mem (f := Prod.fst) (List.mem_filter.mp hp).1
          exact bne_iff_ne.mpr (hname ▸ (ne_of_mem_of_not_mem hmem hfirst).symm)
        rw [hlater, if_pos ⟨hname, hgiven⟩, if_pos hname]
        rfl
      · rw [if_neg fun hboth => hname hboth.1, if_neg hname]
    · rw [if_neg hgiven, if_neg fun hboth => hgiven hboth.2]

/-- The number of items is given by the overrides that have a value for it. -/
theorem lookup_itemCount_eq_none_iff (h : ∀ o ∈ typed, o.WellNamed) :
    (givenOverrides (typed.map Override.named)).lookup "item_count" = none ↔
      typed.any RunConfig.givesItemCount = false := by
  induction typed with
  | nil => exact ⟨fun _ => rfl, fun _ => rfl⟩
  | cons o typed ih =>
    have hrest := ih fun o ho => h o (List.mem_cons_of_mem _ ho)
    have hfirst : o.named.1 = "item_count" ∧ o.named.2.isNull = false ↔ RunConfig.givesItemCount o = true := by
      cases o with
      | itemCount a => cases a <;> simp [Override.named, Datum.ofOption, Datum.isNull, RunConfig.givesItemCount]
      | other name given =>
        have hname : name ∉ parameterNames := h _ List.mem_cons_self
        have hne : name ≠ "item_count" := fun heq => hname (heq ▸ by decide)
        simp [Override.named, RunConfig.givesItemCount, hne]
      | _ => simp [Override.named, RunConfig.givesItemCount]
    have hfirst' : RunConfig.givesItemCount o = false ↔ ¬ (o.named.1 = "item_count" ∧ o.named.2.isNull = false) := by
      rw [hfirst, Bool.not_eq_true]
    rw [List.map_cons, givenOverrides_cons, List.any_cons, Bool.or_eq_false_iff, hfirst']
    by_cases hgiven : o.named.2.isNull = false
    · rw [if_pos hgiven, lookup_pair]
      by_cases hname : o.named.1 = "item_count"
      · simp [hname, hgiven]
      · rw [if_neg (Ne.symm hname), hrest]
        simp [hname]
    · rw [if_neg hgiven, hrest]
      simp [hgiven]

/-- The parameters of a variant before any override; a number of items that it does not have is settled last. -/
def Variant.start (v : Variant) : RunConfig :=
  { itemCount := v.itemCount.getD 0, runCount := v.runCount, shape := v.shape, label := v.name }

theorem lookup_start (v : Variant) (hn : n ∈ parameterNames) (hne : n ≠ "item_count") :
    v.start.named.lookup n = some ((v.named.lookup n).getD ((defaultParameters.lookup n).getD .null)) := by
  rcases parameterNames_cases hn with rfl | rfl | rfl | rfl | rfl | rfl | rfl | rfl | rfl
  case inr.inr.inl => exact absurd rfl hne
  all_goals rfl

theorem underVariant_eq (v : Variant) (typed : List Override) :
    RunConfig.underVariant v typed =
      let c := typed.foldl RunConfig.apply v.start
      if v.itemCount.isSome || typed.any RunConfig.givesItemCount then c
      else c.apply (.itemCount (some c.runCount)) := rfl

/-- The parameters that a variant makes under overrides, by name. -/
theorem named_underVariant (h : ∀ o ∈ typed, o.WellNamed)
    (hnames : ((typed.map Override.named).map Prod.fst).Nodup) (v : Variant) (hn : n ∈ parameterNames) :
    (RunConfig.underVariant v typed).named.lookup n = some (settled v (typed.map Override.named) n) := by
  let c := typed.foldl RunConfig.apply v.start
  have hitem : (v.named.lookup "item_count") = some (.ofOption .int v.itemCount) := rfl
  have hlookup {n : String} (hn : n ∈ parameterNames) : c.named.lookup n =
      ((givenOverrides (typed.map Override.named)).lookup n).or (v.start.named.lookup n) :=
    lookup_foldl_apply h hnames v.start hn
  have hother {n : String} (hn : n ∈ parameterNames) (hne : n ≠ "item_count") :
      c.named.lookup n = some (layered v (typed.map Override.named) n) := by
    rw [hlookup hn, lookup_start v hn hne, layered]
    cases (givenOverrides (typed.map Override.named)).lookup n <;> rfl
  rw [underVariant_eq]
  by_cases hn' : n = "item_count"
  · subst hn'
    have hitems := lookup_itemCount_eq_none_iff h
    cases hgiven : (givenOverrides (typed.map Override.named)).lookup "item_count" with
    | some d =>
      have hany : typed.any RunConfig.givesItemCount = true := by
        rw [← Bool.not_eq_false, ← hitems, hgiven]
        nofun
      have hd := not_isNull_of_given hgiven
      rw [hany, Bool.or_true, if_pos rfl, hlookup hn, hgiven, settled, layered, hgiven]
      show some d = some (if "item_count" = "item_count" ∧ d.isNull = true then _ else d)
      rw [hd, if_neg fun hboth => Bool.noConfusion hboth.2]
    | none =>
      rw [hitems.mp hgiven, Bool.or_false, settled, layered, hgiven, hitem]
      cases hvariant : v.itemCount with
      | some k =>
        rw [Option.isSome_some, if_pos rfl, hlookup hn, hgiven, Variant.start, hvariant]
        rfl
      | none =>
        rw [Option.isSome_none, if_neg Bool.false_ne_true,
          lookup_apply (o := .itemCount (some c.runCount)) trivial c hn]
        exact hother (n := "run_count") (by decide) (by decide)
  · have hsettled : settled v (typed.map Override.named) n = layered v (typed.map Override.named) n :=
      if_neg fun hboth => hn' hboth.1
    rw [hsettled, ← hother hn hn']
    split
    · rfl
    · rw [lookup_apply (o := .itemCount (some c.runCount)) trivial c hn, if_neg fun hboth => hn' hboth.1]

/-- **Overrides of known kinds** make the same parameters as their values by name. -/
theorem named_ofVariant (h : ∀ o ∈ typed, o.WellNamed) (hnames : ((typed.map Override.named).map Prod.fst).Nodup)
    (v : Variant) :
    (RunConfig.ofVariant v typed).map RunConfig.named = parametersOf v (typed.map Override.named) := by
  rw [RunConfig.ofVariant, RunConfig.checkNames]
  cases hrefused : typed.findSome? Override.unknown? with
  | some name =>
    rw [parametersOf_eq, refused?_named h, hrefused]
    rfl
  | none =>
    rw [parametersOf_of_accepted hnames ((refused?_named h).trans hrefused)]
    show Except.ok (RunConfig.underVariant v typed).named = _
    rw [RunConfig.named_eq]
    refine congrArg Except.ok (List.map_congr_left fun n hn => ?_)
    rw [named_underVariant h hnames v hn]
    rfl

/-! ## The law of overrides -/

/-- **Overrides of a variant.** Overrides by name, with values of any kind, are refused exactly when one that is not null
    names no parameter; the refusal tells such a name. Otherwise every parameter is there once, in order, and is its
    override if that is not null, before what the variant says and before the default; a number of items that is null
    after that is the number of runs, so that it is never null. Leaving the null overrides out changes nothing, nor does
    the order of overrides that are accepted, and overrides of the kinds that a session takes make its parameters. -/
theorem parametersOf_layers (v : Variant) (overrides : NamedValues) (hnames : (overrides.map Prod.fst).Nodup) :
    ((∃ e, parametersOf v overrides = .error e) ↔
      ∃ o ∈ overrides, o.2.isNull = false ∧ o.1 ∉ parameterNames) ∧
    (∀ e, parametersOf v overrides = .error e → ∃ o ∈ overrides, o.2.isNull = false ∧ o.1 ∉ parameterNames ∧
      e = ⟨"RunConfig", .ofName o.1⟩) ∧
    (∀ values, parametersOf v overrides = .ok values →
      values.map Prod.fst = parameterNames ∧
      (∀ n ∈ parameterNames, values.lookup n = some (settled v overrides n)) ∧
      ∃ items, values.lookup "item_count" = some items ∧ items.isNull = false) ∧
    parametersOf v (overrides.filter fun o => !o.2.isNull) = parametersOf v overrides ∧
    (∀ others values, others.Perm overrides → parametersOf v overrides = .ok values →
      parametersOf v others = .ok values) ∧
    ∀ typed : List Override, typed.map Override.named = overrides → (∀ o ∈ typed, o.WellNamed) →
      (RunConfig.ofVariant v typed).map RunConfig.named = parametersOf v overrides := by
  have herror (e : ArgumentError) (h : parametersOf v overrides = .error e) :
      ∃ o ∈ overrides, o.2.isNull = false ∧ o.1 ∉ parameterNames ∧ e = ⟨"RunConfig", .ofName o.1⟩ := by
    rw [parametersOf_eq] at h
    cases hrefused : refused? overrides with
    | none => rw [hrefused] at h; cases h
    | some n =>
      rw [hrefused] at h
      obtain ⟨o, ho, hnull, hname, rfl⟩ := of_refused? hrefused
      exact ⟨o, ho, hnull, hname, (Except.error.inj h).symm⟩
  have haccepted {values : NamedValues} (h : parametersOf v overrides = .ok values) :
      refused? overrides = none ∧ values = parameterNames.map fun n => (n, settled v overrides n) := by
    cases hrefused : refused? overrides with
    | none => exact ⟨rfl, Except.ok.inj (h.symm.trans (parametersOf_of_accepted hnames hrefused))⟩
    | some n => rw [parametersOf_eq, hrefused] at h; cases h
  refine ⟨⟨fun ⟨e, he⟩ => ?_, ?_⟩, herror, fun values hvalues => ?_, ?_, fun others values hperm hvalues => ?_, ?_⟩
  · obtain ⟨o, ho, hnull, hname, -⟩ := herror e he
    exact ⟨o, ho, hnull, hname⟩
  · rintro ⟨o, ho, hnull, hname⟩
    cases hresult : parametersOf v overrides with
    | error e => exact ⟨e, rfl⟩
    | ok values => exact absurd (refused?_eq_none_iff.mp (haccepted hresult).1 o ho hnull) hname
  · obtain ⟨-, rfl⟩ := haccepted hvalues
    have hlookup {n : String} := lookup_map_names (n := n) (settled v overrides) parameterNames
    refine ⟨?_, fun n hn => hlookup hn, _, hlookup (by decide), settled_itemCount v overrides⟩
    rw [List.map_map]
    exact List.map_id' parameterNames
  · show parametersOf v (givenOverrides overrides) = _
    rw [parametersOf_eq, parametersOf_eq, refused?, givenOverrides_idem, refused?]
  · obtain ⟨hrefused, rfl⟩ := haccepted hvalues
    rw [parametersOf_of_accepted ((hperm.map Prod.fst).nodup_iff.mpr hnames) ((refused?_perm hperm).mpr hrefused)]
    refine congrArg Except.ok (List.map_congr_left fun n _ => ?_)
    rw [settled_perm hnames hperm]
  · rintro typed rfl htyped
    exact named_ofVariant htyped hnames v

/-- A number of runs that is no number, a null, an empty text and a zero, in two orders. -/
theorem parametersOf_layers_flat :
    ∃ values, parametersOf .tableFlat
        [("run_count", .text "many"), ("item_count", .null), ("label", .text ""), ("warmup_runs", .int 0)] = .ok values ∧
      values.lookup "item_count" = some (.text "many") ∧ values.lookup "label" = some (.text "") ∧
      values.lookup "warmup_runs" = some (.int 0) ∧ values.lookup "shape" = some (.text "flat") ∧
      parametersOf .tableFlat
        [("warmup_runs", .int 0), ("label", .text ""), ("item_count", .null), ("run_count", .text "many")] =
          .ok values ∧
      ∃ e, parametersOf .tableFlat [("bogus", .bool false), ("none", .null)] = .error e := by
  let overrides : NamedValues :=
    [("run_count", .text "many"), ("item_count", .null), ("label", .text ""), ("warmup_runs", .int 0)]
  obtain ⟨hrefused, -, hvalues, -, hperm, -⟩ := parametersOf_layers .tableFlat overrides (by decide)
  obtain ⟨hrefused', -⟩ := parametersOf_layers .tableFlat [("bogus", .bool false), ("none", .null)] (by decide)
  cases hresult : parametersOf .tableFlat overrides with
  | error e =>
    obtain ⟨o, ho, hnull, hname⟩ := hrefused.mp ⟨e, hresult⟩
    simp only [overrides, List.mem_cons, List.not_mem_nil, or_false] at ho
    rcases ho with rfl | rfl | rfl | rfl
    · exact absurd (by decide) hname
    · cases hnull
    · exact absurd (by decide) hname
    · exact absurd (by decide) hname
  | ok values =>
    have hlookup := (hvalues values hresult).2.1
    refine ⟨values, rfl, hlookup "item_count" (by decide), hlookup "label" (by decide),
      hlookup "warmup_runs" (by decide), hlookup "shape" (by decide), ?_, ?_⟩
    · exact hperm overrides.reverse values (List.reverse_perm _) hresult
    · exact hrefused'.mpr ⟨("bogus", .bool false), List.mem_cons_self, rfl, by decide⟩

end RenderBench
