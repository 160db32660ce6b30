import RenderBench.Proofs.Template.Naming

/-!
# `Proofs.Template.Taking` — several renderings of a block that takes items away

Where the items of a rendering are taken away, the rendering goes part by part. Renderings of the parts that belong
together in some way make up renderings of the whole that do, if one rendering after another keeps them together and
they end alike: then all of them come to the same places with the same items.

## Contents
- `splitStmts_all`: the parts of a body are made of its statements and of parts of its outputs.
- `Stmt.Keeps`, `splitStmts_map`: changes of statements that leave alone what takes items.
- `Together`, `trace_together`: renderings that belong together; `together_alike`, `together_relabel`: two such ways.
- `left_of_untouched`: blocks that take nothing.
-/

namespace RenderBench.Template

/-! ## The parts of a body -/

/-- What all statements of the parts of a body are. -/
structure PartsAll (ok : Stmt → Prop) (parts : List Stmt × List (List Stmt)) : Prop where
  first : ∀ s ∈ parts.1, ok s
  rest : ∀ ss ∈ parts.2, ∀ s ∈ ss, ok s

theorem splitPieces_cons (p : Piece) (ps : List Piece) :
    splitPieces (p :: ps) = if p.isTake then ([], (splitPieces ps).1 :: (splitPieces ps).2)
      else (p :: (splitPieces ps).1, (splitPieces ps).2) := rfl

theorem splitPieces_mem : ∀ (pieces : List Piece) {ps : List Piece},
    ps ∈ (splitPieces pieces).1 :: (splitPieces pieces).2 → ∀ p ∈ ps, p ∈ pieces
  | [], ps, h, p, hp => by
    rw [List.mem_singleton.mp h] at hp
    exact hp
  | q :: qs, ps, h, p, hp => by
    have ih {ps : List Piece} (h : ps ∈ (splitPieces qs).1 :: (splitPieces qs).2) (hp : p ∈ ps) : p ∈ q :: qs :=
      List.mem_cons_of_mem q (splitPieces_mem qs h p hp)
    rw [splitPieces_cons] at h
    split at h
    · rcases List.mem_cons.mp h with hnil | h
      · rw [hnil] at hp
        cases hp
      · exact ih h hp
    · rcases List.mem_cons.mp h with hfirst | h
      · rw [hfirst] at hp
        rcases List.mem_cons.mp hp with rfl | hp
        · exact List.mem_cons_self ..
        · exact ih (List.mem_cons_self ..) hp
      · exact ih (List.mem_cons_of_mem _ h) hp

section Parts

variable {ok : Stmt → Prop}

theorem joinParts_all : ∀ {first : List Piece} {more : List (List Piece)} {parts : List Stmt × List (List Stmt)},
    (∀ ps ∈ first :: more, ok (.output ps)) → PartsAll ok parts → PartsAll ok (joinParts first more parts)
  | first, [], parts, hpieces, hparts => by
    refine ⟨fun s hs => ?_, hparts.rest⟩
    rcases List.mem_cons.mp hs with rfl | hs
    · exact hpieces first (List.mem_cons_self ..)
    · exact hparts.first s hs
  | first, next :: more, parts, hpieces, hparts => by
    have ih := joinParts_all (fun ps hps => hpieces ps (List.mem_cons_of_mem first hps)) hparts
    refine ⟨fun s hs => ?_, fun ss hss => ?_⟩
    · rw [List.mem_singleton.mp hs]
      exact hpieces first (List.mem_cons_self ..)
    · rcases List.mem_cons.mp hss with rfl | hss
      · exact ih.first
      · exact ih.rest ss hss

/-- The pieces of an output. -/
def Stmt.pieces? : Stmt → Option (List Piece)
  | .output pieces => some pieces
  | _ => none

theorem pieces?_eq {s : Stmt} {pieces : List Piece} (h : s.pieces? = some pieces) : s = .output pieces := by
  cases s <;> cases h
  rfl

theorem splitStmts_cons (s : Stmt) (ss : List Stmt) :
    splitStmts (s :: ss) = s.pieces?.elim (s :: (splitStmts ss).1, (splitStmts ss).2) fun pieces =>
      joinParts (splitPieces pieces).1 (splitPieces pieces).2 (splitStmts ss) := by
  cases s <;> rfl

/-- **The parts of a body** are made of its statements and of parts of its outputs. -/
theorem splitStmts_all (hsub : ∀ pieces ps, (∀ p ∈ ps, p ∈ pieces) → ok (.output pieces) → ok (.output ps)) :
    ∀ {body : List Stmt}, (∀ s ∈ body, ok s) → PartsAll ok (splitStmts body)
  | [], _ => ⟨nofun, nofun⟩
  | s :: ss, h => by
    have hs := h s (List.mem_cons_self ..)
    have ih := splitStmts_all hsub fun s hs => h s (List.mem_cons_of_mem _ hs)
    rw [splitStmts_cons]
    cases hpieces : s.pieces? with
    | none =>
      refine ⟨fun s' hs' => ?_, ih.rest⟩
      rcases List.mem_cons.mp hs' with rfl | hs'
      · exact hs
      · exact ih.first s' hs'
    | some pieces =>
      rw [pieces?_eq hpieces] at hs
      exact joinParts_all (fun ps hps => hsub pieces ps (splitPieces_mem pieces hps) hs) ih

end Parts

theorem allDiscreet_iff {inherits loads : Bool} {ss : List Stmt} :
    Stmt.allDiscreet inherits loads ss = true ↔ ∀ s ∈ ss, s.discreet inherits loads = true := by
  induction ss with
  | nil => exact ⟨fun _ _ hs => absurd hs List.not_mem_nil, fun _ => rfl⟩
  | cons s ss ih => rw [Stmt.allDiscreet, Bool.and_eq_true, ih, List.forall_mem_cons]

/-- A part of an output passes a test of all its pieces if the output does. -/
theorem all_of_subset {test : Piece → Bool} {pieces ps : List Piece} (hsub : ∀ p ∈ ps, p ∈ pieces)
    (h : pieces.all test = true) : ps.all test = true :=
  List.all_eq_true.mpr fun p hp => List.all_eq_true.mp h p (hsub p hp)

/-! ## Changes that leave alone what takes items -/

/-- A change of statements that changes outputs piece by piece, and neither what takes items nor what binds names. -/
structure Stmt.Keeps (F : Stmt → Stmt) (piece : Piece → Piece) : Prop where
  pieces : ∀ s : Stmt, (F s).pieces? = s.pieces?.map (List.map piece)
  take : ∀ p, (piece p).isTake = p.isTake
  binds : ∀ s : Stmt, (F s).binds = s.binds

/-- The parts of a body with each statement changed. -/
abbrev mapParts (F : Stmt → Stmt) (parts : List Stmt × List (List Stmt)) : List Stmt × List (List Stmt) :=
  (parts.1.map F, parts.2.map (List.map F))

section Keeps

variable {F : Stmt → Stmt} {piece : Piece → Piece}

theorem keeps_id : Stmt.Keeps id id :=
  ⟨fun s => by rw [List.map_id_fun, Option.map_id_fun]; rfl, fun _ => rfl, fun _ => rfl⟩

variable (h : Stmt.Keeps F piece)

include h

theorem splitPieces_map : ∀ pieces : List Piece,
    splitPieces (pieces.map piece) = ((splitPieces pieces).1.map piece, (splitPieces pieces).2.map (List.map piece))
  | [] => rfl
  | p :: ps => by
    rw [List.map_cons, splitPieces_cons, splitPieces_cons, h.take, splitPieces_map ps]
    split <;> rfl

theorem output_of_keeps (pieces : List Piece) : F (.output pieces) = .output (pieces.map piece) :=
  pieces?_eq (h.pieces (.output pieces))

theorem joinParts_map (first : List Piece) (more : List (List Piece)) (parts : List Stmt × List (List Stmt)) :
    joinParts (first.map piece) (more.map (List.map piece)) (mapParts F parts) =
      mapParts F (joinParts first more parts) := by
  induction more generalizing first with
  | nil => rw [List.map_nil, joinParts, joinParts, mapParts, List.map_cons, output_of_keeps h]
  | cons next more ih =>
    rw [List.map_cons, joinParts, ih, ← output_of_keeps h]
    rfl

/-- The parts of a changed body. -/
theorem splitStmts_map (body : List Stmt) : splitStmts (body.map F) = mapParts F (splitStmts body) := by
  induction body with
  | nil => rfl
  | cons s ss ih =>
    rw [List.map_cons, splitStmts_cons, splitStmts_cons, ih, h.pieces]
    cases s.pieces? with
    | none => rfl
    | some pieces =>
      rw [Option.map_some, Option.elim_some, Option.elim_some, splitPieces_map h, joinParts_map h]

theorem isTaking_of_keeps (s : Stmt) : (F s).isTaking = s.isTaking := by
  have htaking (s : Stmt) : s.isTaking = s.pieces?.any fun pieces => pieces.any Piece.isTake := by cases s <;> rfl
  have hpiece : Piece.isTake ∘ piece = Piece.isTake := funext h.take
  rw [htaking, htaking, h.pieces]
  cases s.pieces? with
  | none => rfl
  | some pieces => rw [Option.map_some, Option.any_some, Option.any_some, List.any_map, hpiece]

theorem anyBinds_of_keeps (ss : List Stmt) : Stmt.anyBinds (ss.map F) = Stmt.anyBinds ss := by
  induction ss with
  | nil => rfl
  | cons s ss ih => rw [List.map_cons, Stmt.anyBinds, Stmt.anyBinds, h.binds, ih]

theorem takes_of_keeps {b b' : Block} (hbody : b'.body = b.body.map F) : b'.takes = b.takes := by
  have hany : Stmt.isTaking ∘ F = Stmt.isTaking := funext (isTaking_of_keeps h)
  rw [Block.takes, hbody, List.any_map, hany, anyBinds_of_keeps h, Block.takes]

end Keeps

section Lines

variable {f : Nat → Nat}

theorem isTake_reline (e : Expr) : (e.reline f).isTake = e.isTake := by
  cases e with
  | call g args names values =>
    cases g <;> try rfl
    -- a member
    rename_i e _
    cases e <;> cases args <;> cases names <;> cases values <;> rfl
  | _ => rfl

mutual

theorem binds_reline : ∀ s : Stmt, (s.reline f).binds = s.binds
  | .branch _ body otherwise => by
    rw [Stmt.reline, Stmt.binds, Stmt.binds, anyBinds_reline body, anyBinds_reline otherwise]
  | .assign _ _ | .capture _ _ _ | .definition _ _ _ _ | .importing _ _ | .output _ | .forLoop _ _ _ _ _ _
  | .scope _ _ _ | .block _ _ _ _ _ | .inherit _ _ | .embed _ _ _ | .callBlock _ _ _ _ | .filterBlock _ _
  | .escaping _ _ => rfl

theorem anyBinds_reline : ∀ ss : List Stmt, Stmt.anyBinds (Stmt.relineAll f ss) = Stmt.anyBinds ss
  | [] => rfl
  | s :: ss => by rw [Stmt.relineAll, Stmt.anyBinds, Stmt.anyBinds, binds_reline s, anyBinds_reline ss]

end

/-- What takes items does so on any lines. -/
theorem keeps_reline : Stmt.Keeps (Stmt.reline f) (Piece.reline f) where
  pieces s := by cases s <;> rfl
  take p := by
    cases p with
    | text s => rfl
    | value e => exact isTake_reline e
  binds := binds_reline

end Lines

/-! ## Renderings that belong together -/

/-- A way for renderings, one for each index, to belong together that one rendering after another keeps. They end
    alike. -/
structure Together {ι : Type} (R : (ι → Trace Unit) → Prop) : Prop where
  done : R fun _ => pure ()
  missing : R fun _ => Trace.fail .noItems
  andThen : ∀ {x y : ι → Trace Unit}, R x → R y → R fun i => x i >>= fun _ => y i
  ends : ∀ {x : ι → Trace Unit}, R x → (∀ i, (x i).result = .ok ()) ∨ ∀ i, ∃ f, (x i).result = .error f

section Together

variable {ι : Type} {R : (ι → Trace Unit) → Prop} (hR : Together R)

include hR

theorem andLeaving_together {x : ι → Trace Unit} (hx : R x) (items : List Value) {next : ι → Trace Unit × List Value}
    (hnext : R fun i => (next i).1) : R fun i => (andLeaving (x i) items (next i)).1 := by
  rcases hR.ends hx with hok | herror
  · have hgo (i : ι) : (andLeaving (x i) items (next i)).1 = x i >>= fun _ => (next i).1 := by rw [andLeaving, hok i]
    simp only [hgo]
    exact hR.andThen hx hnext
  · have hstop (i : ι) : (andLeaving (x i) items (next i)).1 = x i := by
      obtain ⟨f, hf⟩ := herror i
      rw [andLeaving, hf]
    simp only [hstop]
    exact hx

variable {escape : ι → Bool} {part : ι → List Stmt → List Value → Trace Unit} {F : ι → Stmt → Stmt} {ok : Stmt → Prop}
  {given : Value → Prop} (hwrite : ∀ v, given v → R fun i => Trace.write (v.written (escape i)))
  (hpart : ∀ (ss : List Stmt) vs, (∀ s ∈ ss, ok s) → (∀ v ∈ vs, given v) → R fun i => part i (ss.map (F i)) vs)

include hwrite hpart

theorem takeRest_together : ∀ (rest : List (List Stmt)) (items : List Value), (∀ ss ∈ rest, ∀ s ∈ ss, ok s) →
    (∀ v ∈ items, given v) → R fun i => (takeRest (escape i) (part i) items (rest.map (List.map (F i)))).1
  | [], _, _, _ => hR.done
  | ss :: rest, items, hrest, hitems => by
    obtain ⟨hss, hrest⟩ := List.forall_mem_cons.mp hrest
    simp only [List.map_cons, takeRest]
    cases hlast : items.getLast? with
    | none => exact hR.missing
    | some v =>
      have hv := hwrite v (hitems v (List.mem_of_getLast? hlast))
      have hleft : ∀ w ∈ items.dropLast, given w := fun w hw => hitems w (List.dropLast_subset items hw)
      exact andLeaving_together hR (hR.andThen hv (hpart ss items.dropLast hss hleft)) items.dropLast
        (takeRest_together rest items.dropLast hrest hleft)

theorem takeAll_together {parts : List Stmt × List (List Stmt)} (hparts : PartsAll ok parts) {items : List Value}
    (hitems : ∀ v ∈ items, given v) : R fun i => (takeAll (escape i) (part i) items (mapParts (F i) parts)).1 :=
  andLeaving_together hR (hpart parts.1 items hparts.first hitems) items
    (takeRest_together hR hwrite hpart parts.2 items hparts.rest hitems)

end Together

/-! ### Relabelled renderings -/

section Relabelled

variable (r : Relabelling)

theorem ends_relabel {x y : Trace Unit} (h : relabel r x = relabel r y) :
    (x.result = .ok () ∧ y.result = .ok ()) ∨ (∃ f, x.result = .error f) ∧ ∃ f, y.result = .error f := by
  have hresult : relabel r x.result = relabel r y.result := congrArg Trace.result h
  cases hx : x.result <;> cases hy : y.result <;> rw [hx, hy] at hresult
  · exact .inr ⟨⟨_, rfl⟩, _, rfl⟩
  · cases hresult
  · cases hresult
  · exact .inl ⟨rfl, rfl⟩

/-- Renderings that are the same but for labels. -/
theorem together_alike : Together fun x : Bool → Trace Unit => relabel r (x true) = relabel r (x false) where
  done := rfl
  missing := rfl
  andThen {x y} hx hy := by
    have hbind (i : Bool) : (relabel r (x i) >>= fun _ => relabel r (y i)) = relabel r (x i >>= fun _ => y i) :=
      Trace.bind_relabel rfl fun _ _ => rfl
    rw [← hbind, ← hbind, hx, hy]
  ends {x} hx := by
    rcases ends_relabel r hx with ⟨htrue, hfalse⟩ | ⟨htrue, hfalse⟩
    · exact .inl fun | true => htrue | false => hfalse
    · exact .inr fun | true => htrue | false => hfalse

/-- A rendering that is another one relabelled. -/
theorem together_relabel : Together fun x : Bool → Trace Unit => x true = relabel r (x false) where
  done := rfl
  missing := rfl
  andThen {x y} hx hy := Trace.bind_relabel hx fun _ _ => hy
  ends {x} hx := by
    have hresult : (x true).result = relabel r (x false).result := congrArg Trace.result hx
    cases hfalse : (x false).result with
    | ok u =>
      rw [hfalse] at hresult
      exact .inl fun | true => hresult | false => hfalse
    | error f =>
      rw [hfalse] at hresult
      exact .inr fun | true => ⟨_, hresult⟩ | false => ⟨f, hfalse⟩

end Relabelled

/-! ## The items of a rendering -/

theorem given_ofDatums (ds : List Datum) : ∀ v ∈ Value.ofDatums ds, v.Given := by
  induction ds with
  | nil => exact fun _ hv => absurd hv List.not_mem_nil
  | cons d ds ih => exact List.forall_mem_cons.mpr ⟨.datum d, ih⟩

theorem Value.Given.elements {vs : List Value} (h : (Value.list vs).Given) : ∀ v ∈ vs, v.Given := by
  generalize hitems : Value.list vs = items at h
  cases h with
  | item i => cases hitems
  | list h =>
    cases hitems
    exact h
  | datum d =>
    cases d <;> cases hitems
    exact given_ofDatums _

end RenderBench.Template

namespace RenderBench

open RenderBench.Template (Block Stmt Piece Value Trace Together splitStmts splitStmts_all splitStmts_map takes_of_keeps
  takeAll_together)

variable {items : Value}

theorem trace_list (t : Template) (b : Block) (vs : List Value) :
    t.trace b (.list vs) = if b.takes then (t.taken b vs).1 else t.part b b.body (.list vs) := rfl

theorem trace_other (t : Template) (b : Block) (h : ∀ vs, items ≠ .list vs) :
    t.trace b items = t.part b b.body items := by
  cases items <;> first | rfl | exact absurd rfl (h _)

/-- **Renderings of a block** belong together if those of its parts do, whatever items there are. -/
theorem trace_together {ι : Type} {R : (ι → Trace Unit) → Prop} (hR : Together R) {t : ι → Template} {b : ι → Block}
    {body : List Stmt} {F : ι → Stmt → Stmt} {piece : ι → Piece → Piece} (hF : ∀ i, Stmt.Keeps (F i) (piece i))
    (hbody : ∀ i, (b i).body = body.map (F i)) (ok : Stmt → Prop)
    (hsub : ∀ pieces ps, (∀ p ∈ ps, p ∈ pieces) → ok (.output pieces) → ok (.output ps)) (hok : ∀ s ∈ body, ok s)
    (hwrite : ∀ v : Value, v.Given → R fun i => Trace.write (v.written (t i).document.escape))
    (hpart : ∀ (ss : List Stmt) (items : Value), (∀ s ∈ ss, ok s) → items.Given → R fun i => (t i).part (b i) (ss.map (F i)) items)
    (hitems : items.Given) : R fun i => (t i).trace (b i) items := by
  have hwhole : R fun i => (t i).part (b i) (b i).body items := by
    simp only [hbody]
    exact hpart body items hok hitems
  by_cases hlist : ∃ vs, items = .list vs
  · obtain ⟨vs, rfl⟩ := hlist
    simp only [trace_list]
    -- the blocks have one body but for what changes nothing here
    let whole : Block := { name := "", line := 0, withLocals := false, required := false, body }
    have htakes (i : ι) : (b i).takes = whole.takes := takes_of_keeps (hF i) (hbody i)
    simp only [htakes]
    split
    · have hsplit (i : ι) : splitStmts (b i).body = Template.mapParts (F i) (splitStmts body) := by
        rw [hbody, splitStmts_map (hF i)]
      simp only [Template.taken, hsplit]
      exact takeAll_together hR hwrite (fun ss vs hss hvs => hpart ss (.list vs) hss (.list hvs))
        (splitStmts_all hsub hok) hitems.elements
    · exact hwhole
  · have hother (i : ι) : (t i).trace (b i) items = (t i).part (b i) (b i).body items :=
      trace_other (t i) (b i) fun vs h => hlist ⟨vs, h⟩
    simp only [hother]
    exact hwhole

/-! ## Blocks that take nothing -/

theorem blockLeft_of_untouched {t : Template} {b : Block} (h : b.takes = false) (items : Value) :
    t.blockLeft b items = items := by
  cases items <;> first | rfl | exact if_neg (by rw [h]; exact Bool.false_ne_true)

/-- **Blocks that take nothing** leave the items alone. -/
theorem left_of_untouched {t : Template} (h : ∀ b ∈ t.document.blocks, b.takes = false) (name : String) (items : Value) :
    t.left name items = items := by
  unfold Template.left
  cases hfind : t.document.blocks.find? fun b => b.name == name with
  | none => rfl
  | some b => exact blockLeft_of_untouched (h b (List.mem_of_find?_eq_some hfind)) items

end RenderBench
