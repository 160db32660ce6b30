import RenderBench.Template.Syntax

/-!
# `Proofs.Template.Same` — comparing plain documents

Two documents can be compared by computation if they are plain: made of text, members of variables, loops,
branches and blocks. Whatever else is compared counts as different, so that the comparison is sound for
every document.

## Contents
- `Expr.same`, `Stmt.same`, `Document.same`: the comparison.
- `Document.eq_of_same`: documents that count as the same are equal.
-/

namespace RenderBench.Template

/-- Names and their members are compared; all other expressions count as different. -/
def Expr.same : Expr → Expr → Bool
  | .name n, .name n' => n == n'
  | .attribute e a, .attribute e' a' => e.same e' && a == a'
  | _, _ => false

theorem Expr.eq_of_same {e e' : Expr} (h : e.same e') : e = e' := by
  fun_induction Expr.same e e' with
  | case1 n n' => rw [eq_of_beq h]
  | case2 e a e' a' ih =>
    obtain ⟨he, ha⟩ := Bool.and_eq_true_iff.mp h
    rw [ih he, eq_of_beq ha]
  | case3 => cases h

/-- Text is compared by itself, and a value by its expression. -/
def Piece.same : Piece → Piece → Bool
  | .text s, .text s' => s == s'
  | .value e, .value e' => e.same e'
  | _, _ => false

theorem Piece.eq_of_same {p p' : Piece} (h : p.same p') : p = p' := by
  fun_cases Piece.same p p' with
  | case1 s s' => rw [eq_of_beq h]
  | case2 e e' => rw [Expr.eq_of_same h]
  | case3 => simp_all [Piece.same]

/-- A target that is one name on one line. -/
def Target.same : Target → Target → Bool
  | .name line n, .name line' n' => line == line' && n == n'
  | _, _ => false

theorem Target.eq_of_same {t t' : Target} (h : t.same t') : t = t' := by
  fun_cases Target.same t t' with
  | case1 line n line' n' =>
    obtain ⟨hline, hn⟩ := Bool.and_eq_true_iff.mp h
    rw [eq_of_beq hline, eq_of_beq hn]
  | case2 => simp_all [Target.same]

/-- Whether two lists have the same elements, each compared with the one in its place. -/
def sameAll {α : Type} (same : α → α → Bool) : List α → List α → Bool
  | [], [] => true
  | a :: as, b :: bs => same a b && sameAll same as bs
  | _, _ => false

theorem eq_of_sameAll {α : Type} {same : α → α → Bool} (hsame : ∀ {a b}, same a b → a = b) {as bs : List α}
    (h : sameAll same as bs) : as = bs := by
  fun_induction sameAll same as bs with
  | case1 => rfl
  | case2 a as b bs ih =>
    obtain ⟨hhead, htail⟩ := Bool.and_eq_true_iff.mp h
    rw [hsame hhead, ih htail]
  | case3 => cases h

mutual

/-- Output, loops without a condition, branches and blocks. -/
def Stmt.same : Stmt → Stmt → Bool
  | .output ps, .output ps' => sameAll Piece.same ps ps'
  | .forLoop t e none r body otherwise, .forLoop t' e' none r' body' otherwise' =>
    t.same t' && e.same e' && r == r' && Stmt.sameBody body body' && Stmt.sameBody otherwise otherwise'
  | .branch e body otherwise, .branch e' body' otherwise' =>
    e.same e' && Stmt.sameBody body body' && Stmt.sameBody otherwise otherwise'
  | .block line n l r body, .block line' n' l' r' body' =>
    line == line' && n == n' && l == l' && r == r' && Stmt.sameBody body body'
  | _, _ => false

def Stmt.sameBody : List Stmt → List Stmt → Bool
  | [], [] => true
  | st :: rest, st' :: rest' => st.same st' && Stmt.sameBody rest rest'
  | _, _ => false

end

/-- Statements and bodies that count as the same are equal, by the induction of the comparison. -/
theorem Stmt.eq_of_same_and_body :
    (∀ st st' : Stmt, st.same st' → st = st') ∧
      ∀ body body' : List Stmt, Stmt.sameBody body body' → body = body' := by
  refine Stmt.same.mutual_induct (fun st st' => st.same st' → st = st')
    (fun body body' => Stmt.sameBody body body' → body = body') ?_ ?_ ?_ ?_ ?_ ?_ ?_ ?_
  · intro ps ps' h
    rw [eq_of_sameAll Piece.eq_of_same h]
  · intro t e r body otherwise t' e' r' body' otherwise' ihbody ihotherwise h
    simp only [Stmt.same, Bool.and_eq_true] at h
    obtain ⟨⟨⟨⟨ht, he⟩, hr⟩, hbody⟩, hotherwise⟩ := h
    rw [Target.eq_of_same ht, Expr.eq_of_same he, eq_of_beq hr, ihbody hbody, ihotherwise hotherwise]
  · intro e body otherwise e' body' otherwise' ihbody ihotherwise h
    simp only [Stmt.same, Bool.and_eq_true] at h
    obtain ⟨⟨he, hbody⟩, hotherwise⟩ := h
    rw [Expr.eq_of_same he, ihbody hbody, ihotherwise hotherwise]
  · intro line n l r body line' n' l' r' body' ihbody h
    simp only [Stmt.same, Bool.and_eq_true] at h
    obtain ⟨⟨⟨⟨hline, hn⟩, hl⟩, hr⟩, hbody⟩ := h
    rw [eq_of_beq hline, eq_of_beq hn, eq_of_beq hl, eq_of_beq hr, ihbody hbody]
  · -- statements of other kinds count as different
    intro st st' _ _ _ _ h
    simp_all [Stmt.same]
  · exact fun _ => rfl
  · intro st rest st' rest' ihst ihrest h
    simp only [Stmt.sameBody, Bool.and_eq_true] at h
    rw [ihst h.1, ihrest h.2]
  · -- lists of different lengths
    intro body body' _ _ h
    simp_all [Stmt.sameBody]

def Block.same (b b' : Block) : Bool :=
  b.name == b'.name && b.line == b'.line && b.withLocals == b'.withLocals && b.required == b'.required &&
    Stmt.sameBody b.body b'.body

theorem Block.eq_of_same {b b' : Block} (h : b.same b') : b = b' := by
  simp only [Block.same, Bool.and_eq_true, beq_iff_eq] at h
  obtain ⟨⟨⟨⟨hname, hline⟩, hlocals⟩, hrequired⟩, hbody⟩ := h
  have hbody' := Stmt.eq_of_same_and_body.2 _ _ hbody
  cases b
  cases b'
  simp_all

/-- Documents are compared in their names, their bodies and their blocks. -/
def Document.same (d d' : Document) : Bool :=
  d.name == d'.name && d.escape == d'.escape && Stmt.sameBody d.body d'.body &&
    sameAll Block.same d.blocks d'.blocks

/-- **Documents that count as the same are equal.** -/
theorem Document.eq_of_same {d d' : Document} (h : d.same d') : d = d' := by
  simp only [Document.same, Bool.and_eq_true, beq_iff_eq] at h
  obtain ⟨⟨⟨hname, hescape⟩, hbody⟩, hblocks⟩ := h
  have hbody' := Stmt.eq_of_same_and_body.2 _ _ hbody
  have hblocks' := eq_of_sameAll Block.eq_of_same hblocks
  cases d
  cases d'
  simp_all

end RenderBench.Template
