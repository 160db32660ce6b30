import RenderBench.Template.Check

/-!
# `Proofs.Template.Check` — what the check of a document finds under any name

A document is checked after what is known before the rendering has become constants, and what is known depends on
whether output is escaped. The check of statements does not look at expressions, but for the names of filters and
tests in them and for arguments that are given twice. So it finds the same in a document as in its outline, the
document without its expressions, unless it finds one of these; and constants leave the outline alone.

## Contents
- `SyntaxFault.IsHidden`, `Hidden`: failures for what stands in an expression, which a constant in its place hides.
- `Settles`: a check finds what another one does, or fails in that way.
- `checkExpr_settles`: expressions have no other faults.
- `Stmt.outline`, `outline_fold`: statements without their expressions, and constants.
- `checkStmt_settles`, `checkDocument_settles`: statements and documents have the faults of their outlines.
- `ofStatements_agree`: two readings of the same statements.
-/

namespace RenderBench.Template

variable {α β : Type}

/-! ## Faults that a constant hides -/

/-- A failure for a filter or a test that does not exist, or for an argument that is given twice. -/
def SyntaxFault.IsHidden (f : SyntaxFault) : Prop :=
  ∃ name, f.cause = .unknownFilter name ∨ f.cause = .unknownTest name ∨ f.cause = .code (.repeatedArgument name)

/-- Whether a reading fails so. -/
def Hidden (x : Except SyntaxFault α) : Prop := ∃ f : SyntaxFault, f.IsHidden ∧ x = .error f

theorem Hidden.bind {x : Except SyntaxFault α} (h : Hidden x) (f : α → Except SyntaxFault β) :
    Hidden (x >>= f) := by
  obtain ⟨fault, hhidden, rfl⟩ := h
  exact ⟨fault, hhidden, rfl⟩

/-- Whether a check finds what another one does, unless it finds what a constant hides. -/
def Settles (c c' : Except SyntaxFault α) : Prop := c = c' ∨ Hidden c

theorem Settles.same (c : Except SyntaxFault α) : Settles c c := .inl rfl

theorem Settles.bind {c c' : Except SyntaxFault α} {f f' : α → Except SyntaxFault β} (hc : Settles c c')
    (hf : ∀ a, Settles (f a) (f' a)) : Settles (c >>= f) (c' >>= f') := by
  cases hc with
  | inl hsame =>
    subst hsame
    cases c with
    | ok a => exact hf a
    | error fault => exact .same _
  | inr hhidden => exact .inr (hhidden.bind f)

/-- A check of expressions, and then another one. -/
theorem Settles.andThen {c d d' : Check} (hc : Settles c (.ok ())) (hd : Settles d d') :
    Settles (c >>= fun _ => d) d' := by
  have hboth : Settles (c >>= fun _ => d) ((.ok () : Check) >>= fun _ => d') := hc.bind fun _ => hd
  exact hboth

theorem settles_ensure_filter (ok : Bool) (line : Nat) (name : String) :
    Settles (ensure ok line (.unknownFilter name)) (.ok ()) := by
  cases ok with
  | true => exact .same _
  | false => exact .inr ⟨_, ⟨name, .inl rfl⟩, rfl⟩

theorem settles_ensure_test (ok : Bool) (line : Nat) (name : String) :
    Settles (ensure ok line (.unknownTest name)) (.ok ()) := by
  cases ok with
  | true => exact .same _
  | false => exact .inr ⟨_, ⟨name, .inr (.inl rfl)⟩, rfl⟩

theorem settles_checkArguments (g : Glance) (names : List String) : Settles (checkArguments g names) (.ok ()) := by
  unfold checkArguments
  cases repeated? names with
  | none => exact .same _
  | some name =>
    simp only [ensureCode, ensure]
    split
    · exact .same _
    · exact .inr ⟨_, ⟨name, .inr (.inr rfl)⟩, rfl⟩

theorem settles_firstFault {cs : List Check} (h : ∀ c ∈ cs, Settles c (.ok ())) :
    Settles (firstFault cs) (.ok ()) := by
  induction cs with
  | nil => exact .same _
  | cons c cs ih =>
    exact (h c (List.mem_cons_self ..)).andThen (ih fun d hd => h d (List.mem_cons_of_mem c hd))

theorem mem_inTurns {a : α} : ∀ {xs ys : List α}, a ∈ inTurns xs ys → a ∈ xs ∨ a ∈ ys
  | [], _, h => nomatch h
  | _ :: _, [], h => nomatch h
  | x :: xs, y :: ys, h => by
    rcases List.mem_cons.mp h with rfl | h
    · exact .inl (List.mem_cons_self ..)
    rcases List.mem_cons.mp h with rfl | h
    · exact .inr (List.mem_cons_self ..)
    rcases mem_inTurns h with h | h
    · exact .inl (List.mem_cons_of_mem x h)
    · exact .inr (List.mem_cons_of_mem y h)

mutual

/-- **An expression** has no other faults. -/
theorem checkExpr_settles (g : Glance) : ∀ e : Expr, Settles (checkExpr g e) (.ok ())
  | .const _ | .name _ | .captured => .same _
  | .list es | .tuple es | .concat es => settles_firstFault (checksOf_settles g es)
  | .dict ks vs => settles_firstFault fun c hc =>
    (mem_inTurns hc).elim (checksOf_settles g ks c) (checksOf_settles g vs c)
  | .attribute e _ | .unary _ e | .spread e | .spreadNamed e => checkExpr_settles g e
  | .item e i => (checkExpr_settles g e).andThen (checkExpr_settles g i)
  | .slice a b c =>
    (checkExpr_settles g a).andThen ((checkExpr_settles g b).andThen (checkExpr_settles g c))
  | .call f args names values =>
    (settles_checkArguments g names).andThen ((checkExpr_settles g f).andThen
      ((settles_firstFault (checksOf_settles g args)).andThen (settles_firstFault (checksOf_settles g values))))
  | .filter line e name args names values =>
    (settles_ensure_filter _ line name).andThen ((settles_checkArguments g names).andThen
      ((checkExpr_settles g e).andThen ((settles_firstFault (checksOf_settles g args)).andThen
        (settles_firstFault (checksOf_settles g values)))))
  | .test line e name args names values =>
    (settles_ensure_test _ line name).andThen ((settles_checkArguments g names).andThen
      ((checkExpr_settles g e).andThen ((settles_firstFault (checksOf_settles g args)).andThen
        (settles_firstFault (checksOf_settles g values)))))
  | .binary _ a b | .and a b | .or a b => (checkExpr_settles g a).andThen (checkExpr_settles g b)
  | .compare e _ es => (checkExpr_settles g e).andThen (settles_firstFault (checksOf_settles g es))
  | .ifElse t a b =>
    (checkExpr_settles g.used a).andThen ((checkExpr_settles g.used t).andThen (checkExpr_settles g.used b))
  | .ifOnly _ t a => (checkExpr_settles g.used a).andThen (checkExpr_settles g.used t)

theorem checksOf_settles (g : Glance) : ∀ es : List Expr, ∀ c ∈ checksOf g es, Settles c (.ok ())
  | [], _, h => nomatch h
  | e :: es, c, h => by
    rcases List.mem_cons.mp h with rfl | h
    · exact checkExpr_settles g e
    · exact checksOf_settles g es c h

end

theorem checkPieces_settles (escape : Bool) (g : Glance) : ∀ ps : List Piece,
    Settles (checkPieces escape g ps) (.ok ())
  | [] => .same _
  | .text _ :: ps => checkPieces_settles escape g ps
  | .value e :: ps => by
    have hrest := checkPieces_settles escape g ps
    rw [checkPieces]
    split
    · exact (checkExpr_settles g e).andThen hrest
    · exact hrest

/-! ## Outlines -/

mutual

/-- A statement without its expressions. -/
def Stmt.outline : Stmt → Stmt
  | .output _ => .output []
  | .forLoop target _ _ recursive body otherwise =>
    .forLoop target (.const .none) none recursive (Stmt.outlineAll body) (Stmt.outlineAll otherwise)
  | .branch _ body otherwise => .branch (.const .none) (Stmt.outlineAll body) (Stmt.outlineAll otherwise)
  | .assign target _ => .assign target (.const .none)
  | .capture target _ body => .capture target none (Stmt.outlineAll body)
  | .scope targets _ body => .scope targets [] (Stmt.outlineAll body)
  | .block line name withLocals required body => .block line name withLocals required (Stmt.outlineAll body)
  | .inherit line _ => .inherit line (.const .none)
  | .embed _ ignoreMissing withContext => .embed (.const .none) ignoreMissing withContext
  | .definition name params _ body => .definition name params [] (Stmt.outlineAll body)
  | .callBlock params _ _ body => .callBlock params [] (.const .none) (Stmt.outlineAll body)
  | .filterBlock _ body => .filterBlock (.const .none) (Stmt.outlineAll body)
  | .escaping _ body => .escaping (.const .none) (Stmt.outlineAll body)
  | .importing _ names => .importing (.const .none) names

def Stmt.outlineAll : List Stmt → List Stmt
  | [] => []
  | s :: ss => s.outline :: Stmt.outlineAll ss

end

mutual

/-- Constants in place of what is known leave the outline alone. -/
theorem outline_fold : ∀ (escape : Bool) (s : Stmt), (s.fold escape).outline = s.outline
  | _, .output _ | _, .assign _ _ | _, .inherit _ _ | _, .embed _ _ _ | _, .importing _ _ => rfl
  | escape, .forLoop target source condition recursive body otherwise => by
    simp only [Stmt.fold, Stmt.outline, outlineAll_fold escape body, outlineAll_fold escape otherwise]
  | escape, .branch test body otherwise => by
    simp only [Stmt.fold, Stmt.outline, outlineAll_fold escape body, outlineAll_fold escape otherwise]
  | escape, .capture target filter body => by simp only [Stmt.fold, Stmt.outline, outlineAll_fold escape body]
  | escape, .scope targets values body => by simp only [Stmt.fold, Stmt.outline, outlineAll_fold escape body]
  | escape, .block line name withLocals required body => by
    simp only [Stmt.fold, Stmt.outline, outlineAll_fold escape body]
  | escape, .definition name params defaults body => by
    simp only [Stmt.fold, Stmt.outline, outlineAll_fold escape body]
  | escape, .callBlock params defaults call body => by
    simp only [Stmt.fold, Stmt.outline, outlineAll_fold escape body]
  | escape, .filterBlock filter body => by simp only [Stmt.fold, Stmt.outline, outlineAll_fold escape body]
  | escape, .escaping value body => by
    -- the mode inside may be another one, and the outline has none
    have hbody (escape : Bool) := outlineAll_fold escape body
    rw [Stmt.fold]
    split <;> simp only [Stmt.outline, hbody]

theorem outlineAll_fold : ∀ (escape : Bool) (ss : List Stmt),
    Stmt.outlineAll (Stmt.foldAll escape ss) = Stmt.outlineAll ss
  | _, [] => rfl
  | escape, s :: ss => by
    simp only [Stmt.foldAll, Stmt.outlineAll, outline_fold escape s, outlineAll_fold escape ss]

end

mutual

theorem loopStore?_outline : ∀ s : Stmt, loopStore? s.outline = loopStore? s
  | .output _ | .assign _ _ | .inherit _ _ | .embed _ _ _ | .importing _ _ => rfl
  | .forLoop target source condition recursive body otherwise => by
    simp only [Stmt.outline, loopStore?, loopStores?_outline body, loopStores?_outline otherwise]
  | .branch test body otherwise => by
    simp only [Stmt.outline, loopStore?, loopStores?_outline body, loopStores?_outline otherwise]
  | .capture _ _ body | .scope _ _ body | .block _ _ _ _ body | .definition _ _ _ body
  | .callBlock _ _ _ body | .filterBlock _ body | .escaping _ body => by
    simp only [Stmt.outline, loopStore?, loopStores?_outline body]

theorem loopStores?_outline : ∀ ss : List Stmt, loopStores? (Stmt.outlineAll ss) = loopStores? ss
  | [] => rfl
  | s :: ss => by simp only [Stmt.outlineAll, loopStores?, loopStore?_outline s, loopStores?_outline ss]

end

/-- A block without its expressions. -/
def Block.outline (b : Block) : Block := { b with body := Stmt.outlineAll b.body }

theorem Block.outline_fold (escape : Bool) (b : Block) : (b.fold escape).outline = b.outline :=
  congrArg (fun body => { b with body }) (outlineAll_fold escape b.body)

theorem repeatedBlock?_outline (seen : List String) (bs : List Block) :
    repeatedBlock? seen (bs.map Block.outline) = (repeatedBlock? seen bs).map Block.outline := by
  induction bs generalizing seen with
  | nil => rfl
  | cons b bs ih =>
    rw [List.map_cons, repeatedBlock?, repeatedBlock?, ih]
    show (if seen.contains b.name then _ else (repeatedBlock? (b.name :: seen) bs).map Block.outline) = _
    split <;> rfl

/-! ## Statements -/

theorem checkStmt_forLoop (escape : Bool) (p : Place) (target : Target) (source : Expr) (condition : Option Expr)
    (recursive : Bool) (body otherwise : List Stmt) :
    checkStmt escape p (.forLoop target source condition recursive body otherwise) =
      condition.elim (.ok ()) (checkExpr p.hard) >>= fun _ =>
        (loopStore? (.forLoop target source condition recursive body otherwise)).elim (.ok ())
          (fun line => .error ⟨line, .loopTarget⟩) >>= fun _ =>
            checkExpr p.toGlance source >>= fun _ =>
              checkNesting p.toGlance (p.looped recursive).depth >>= fun _ =>
                checkStmts escape (p.looped recursive) body >>= fun _ =>
                  checkStmts escape (p.afterLoop recursive) otherwise := by
  conv => lhs; unfold checkStmt
  generalize loopStore? (.forLoop target source condition recursive body otherwise) = store
  cases condition <;> cases store <;> rfl

theorem checkStmt_capture (escape : Bool) (p : Place) (target : Target) (filter : Option Expr) (body : List Stmt) :
    checkStmt escape p (.capture target filter body) =
      checkStmts escape p.kept body >>= fun _ => filter.elim (.ok ()) (checkExpr p.hard) := by
  conv => lhs; unfold checkStmt
  cases filter <;> rfl

/-- Whether nothing after this statement is looked at. -/
def Stmt.closes (p : Place) : Stmt → Bool
  | .inherit _ _ => p.top && p.inherits
  | _ => false

theorem checkStmts_cons (escape : Bool) (p : Place) (s : Stmt) (ss : List Stmt) :
    checkStmts escape p (s :: ss) = if s.closes p then .ok ()
      else checkStmt escape p s >>= fun _ => checkStmts escape p ss := by
  cases s <;> rfl

theorem closes_outline (p : Place) (s : Stmt) : s.outline.closes p = s.closes p := by
  cases s <;> rfl

theorem Settles.optional (g : Glance) (o : Option Expr) : Settles (o.elim (.ok ()) (checkExpr g)) (.ok ()) := by
  cases o with
  | none => exact .same _
  | some e => exact checkExpr_settles g e

mutual

/-- **A statement** has the faults of its outline, unless one of its expressions has a fault that a constant hides. -/
theorem checkStmt_settles (escape : Bool) : ∀ (s : Stmt) (p : Place),
    Settles (checkStmt escape p s) (checkStmt true p s.outline)
  | .output pieces, p => by
    rw [Stmt.outline, checkStmt, checkStmt]
    split
    · exact .same _
    · exact checkPieces_settles escape p.toGlance pieces
  | .forLoop target source condition recursive body otherwise, p => by
    -- what a loop stores is told by its outline
    have hstore := loopStore?_outline (.forLoop target source condition recursive body otherwise)
    rw [Stmt.outline] at hstore ⊢
    rw [checkStmt_forLoop, checkStmt_forLoop, hstore]
    refine (Settles.optional p.hard condition).andThen ((Settles.same _).bind fun _ => ?_)
    refine (checkExpr_settles p.toGlance source).andThen ((Settles.same _).bind fun _ => ?_)
    exact (checkStmts_settles escape body _).bind fun _ => checkStmts_settles escape otherwise _
  | .branch test body otherwise, p =>
    (checkExpr_settles p.used test).andThen ((checkStmts_settles escape body p.conditional).bind fun _ =>
      checkStmts_settles escape otherwise p.conditional)
  | .assign _ value, p => checkExpr_settles p.toGlance value
  | .capture target filter body, p => by
    rw [Stmt.outline, checkStmt_capture, checkStmt_capture]
    exact (checkStmts_settles escape body p.kept).bind fun _ => Settles.optional p.hard filter
  | .scope _ values body, p =>
    (settles_firstFault (checksOf_settles p.toGlance values)).andThen (checkStmts_settles escape body p.inner)
  | .block _ _ _ _ _, _ => .same _
  | .inherit line parent, p => by
    rw [Stmt.outline, checkStmt, checkStmt]
    exact (Settles.same _).bind fun _ => checkExpr_settles p.toGlance parent
  | .embed source _ _, p => by
    rw [Stmt.outline, checkStmt, checkStmt]
    exact (checkExpr_settles p.toGlance source).andThen (.same _)
  | .definition _ _ defaults body, p =>
    (Settles.same _).bind fun _ => (settles_firstFault (checksOf_settles p.hard defaults)).andThen
      (checkStmts_settles escape body p.called)
  | .callBlock _ defaults call body, p =>
    (Settles.same _).bind fun _ => (settles_firstFault (checksOf_settles p.hard defaults)).andThen
      ((checkStmts_settles escape body p.called).bind fun _ =>
        (settles_checkArguments p.toGlance _).andThen (checkExpr_settles p.toGlance call))
  | .filterBlock filter body, p =>
    (checkStmts_settles escape body p.filtered).bind fun _ => checkExpr_settles p.hard filter
  | .escaping value body, p => (checkExpr_settles p.hard value).andThen (checkStmts_settles escape body p.inner)
  | .importing source _, p => checkExpr_settles p.toGlance source

theorem checkStmts_settles (escape : Bool) : ∀ (ss : List Stmt) (p : Place),
    Settles (checkStmts escape p ss) (checkStmts true p (Stmt.outlineAll ss))
  | [], _ => .same _
  | s :: ss, p => by
    rw [Stmt.outlineAll, checkStmts_cons, checkStmts_cons, closes_outline]
    split
    · exact .same _
    · exact (checkStmt_settles escape s p).bind fun _ => checkStmts_settles escape ss p

end

/-- Whether a statement is an inheritance. -/
def Stmt.isInherit : Stmt → Bool
  | .inherit _ _ => true
  | _ => false

theorem checkRoot_cons (code escape inherits : Bool) (s : Stmt) (ss : List Stmt) :
    checkRoot code escape inherits (s :: ss) = if s.closes (.root code inherits) then .ok ()
      else checkStmt escape (.root code inherits) s >>= fun _ =>
        checkRoot code escape (inherits || s.isInherit) ss := by
  cases s with
  | inherit line parent => cases inherits <;> rfl
  | _ => cases inherits <;> rfl

theorem checkRoot_settles (code escape : Bool) : ∀ (ss : List Stmt) (inherits : Bool),
    Settles (checkRoot code escape inherits ss) (checkRoot code true inherits (Stmt.outlineAll ss))
  | [], _ => .same _
  | s :: ss, inherits => by
    have hinherit : s.outline.isInherit = s.isInherit := by cases s <;> rfl
    rw [Stmt.outlineAll, checkRoot_cons, checkRoot_cons, closes_outline, hinherit]
    split
    · exact .same _
    · exact (checkStmt_settles escape s _).bind fun _ => checkRoot_settles code escape ss _

theorem checkBlocks_settles (code escape : Bool) : ∀ bs : List Block,
    Settles (checkBlocks code escape bs) (checkBlocks code true (bs.map Block.outline))
  | [] => .same _
  | b :: bs => (checkStmts_settles escape b.body (.alone code)).bind fun _ => checkBlocks_settles code escape bs

theorem checkAll_settles (code escape : Bool) (body : List Stmt) (blocks : List Block) :
    Settles (checkAll code escape body blocks)
      (checkAll code true (Stmt.outlineAll body) (blocks.map Block.outline)) :=
  (checkRoot_settles code escape body false).bind fun _ => checkBlocks_settles code escape blocks

/-! ## Documents -/

/-- The check of the statements of a document and of those of its blocks, and then of the code made of them. -/
def checkDocument (escape : Bool) (body : List Stmt) (blocks : List Block) : Check :=
  (repeatedBlock? [] blocks).elim (.ok ()) (fun b => .error ⟨b.line, .blockTwice b.name⟩) >>= fun _ =>
    checkAll false escape body blocks >>= fun _ => checkAll true escape body blocks

theorem checkDocument_settles (escape : Bool) (body : List Stmt) (blocks : List Block) :
    Settles (checkDocument escape body blocks)
      (checkDocument true (Stmt.outlineAll body) (blocks.map Block.outline)) := by
  unfold checkDocument
  rw [repeatedBlock?_outline]
  refine Settles.bind ?_ fun _ => ?_
  · cases repeatedBlock? [] blocks <;> exact .same _
  · exact (checkAll_settles false escape body blocks).bind fun _ => checkAll_settles true escape body blocks

/-- The blocks among the statements of a document, as they are rendered. -/
def documentBlocks (escape : Bool) (statements : List Stmt) : List Block :=
  (blocksOfAll statements).map (Block.fold escape)

theorem ofStatements_eq (name : Option String) (escape : Bool) (statements : List Stmt) :
    Document.ofStatements name escape statements =
      checkDocument escape (Stmt.foldAll escape statements) (documentBlocks escape statements) >>= fun _ =>
        .ok ⟨name, escape, Stmt.foldAll escape statements, documentBlocks escape statements⟩ := by
  unfold Document.ofStatements checkDocument
  rw [← documentBlocks]
  generalize documentBlocks escape statements = blocks
  dsimp only
  cases repeatedBlock? [] blocks with
  | some b => rfl
  | none =>
    show (checkAll _ _ _ _ >>= _) = ((checkAll _ _ _ _ >>= _) >>= _)
    cases checkAll false escape (Stmt.foldAll escape statements) blocks <;> rfl

/-- **Two readings of the same statements**, under any names and with output escaped or not, fail for the same reason
    or not at all, unless one of them fails for what a constant may hide. -/
theorem ofStatements_agree (name name' : Option String) (escape escape' : Bool) (statements : List Stmt) :
    (Document.ofStatements name escape statements).map (fun _ => ()) =
        (Document.ofStatements name' escape' statements).map (fun _ => ()) ∨
      Hidden (Document.ofStatements name escape statements) ∨
        Hidden (Document.ofStatements name' escape' statements) := by
  -- either reading fails as the outline does, which knows neither a name nor a mode
  have hcheck (name : Option String) (escape : Bool) :
      (Document.ofStatements name escape statements).map (fun _ => ()) =
          checkDocument true (Stmt.outlineAll statements) ((blocksOfAll statements).map Block.outline) ∨
        Hidden (Document.ofStatements name escape statements) := by
    rw [ofStatements_eq]
    have hsettles := checkDocument_settles escape (Stmt.foldAll escape statements) (documentBlocks escape statements)
    have hblocks : (documentBlocks escape statements).map Block.outline =
        (blocksOfAll statements).map Block.outline := by
      rw [documentBlocks, List.map_map]
      exact List.map_congr_left fun b _ => b.outline_fold escape
    rw [outlineAll_fold, hblocks] at hsettles
    rcases hsettles with hsame | hhidden
    · rw [← hsame]
      left
      cases checkDocument escape (Stmt.foldAll escape statements) (documentBlocks escape statements) <;> rfl
    · exact .inr (hhidden.bind _)
  rcases hcheck name escape with h | h
  · rcases hcheck name' escape' with h' | h'
    · exact .inl (h.trans h'.symm)
    · exact .inr (.inr h')
  · exact .inr (.inl h)

end RenderBench.Template
