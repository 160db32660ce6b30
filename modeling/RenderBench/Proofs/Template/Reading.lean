import RenderBench.Proofs.Lookup
import RenderBench.Proofs.Stepwise
import RenderBench.Proofs.Text.Utf8
import RenderBench.Template.Store

/-!
# `Proofs.Template.Reading` — files and their documents

A path leads to a file below its parent, under its own name; only a step to the parent stands for no file there,
and in a tree of directories it never leads to one. What is read from a file is decided by its bytes.

## Contents
- `FileStore.IsTree`, `readFile?_of_step`: what a step to the parent leads to.
- `templatePath?_name`: a path is found below its parent.
- `readDocument_missing`, `readDocument_notText`, `readDocument_text`: the document of a file.
-/

namespace RenderBench

/-! ## Trees of directories -/

namespace FileStore

variable {s : FileStore} {p : FilePath}

/-- What is above a directory is a directory. -/
def IsTree (s : FileStore) : Prop :=
  ∀ l, s.get? l = some .directory → s.get? l.dropLast = some .directory

theorem isTree_of_entries
    (h : ∀ e ∈ s.entries, e.2 = .directory → s.get? e.1.dropLast = some .directory) : s.IsTree := by
  intro l hl
  rw [get?] at hl
  split at hl
  · rename_i hempty
    rw [List.isEmpty_iff.mp hempty]
    rfl
  · exact h (l, .directory) (mem_of_lookup hl) rfl

/-- A step to the parent leads to a directory, if it leads anywhere. -/
theorem find_of_step (hs : s.IsTree) {parts : List String} (hp : p.parts = parts ++ [".."]) {e : Entry}
    (h : s.find p = .ok e) : e = .directory := by
  obtain ⟨l', hlocate, hentry⟩ := exists_of_bind_ok h
  rw [locate, hp, List.foldlM_append] at hlocate
  obtain ⟨l, -, hstep⟩ := exists_of_bind_ok hlocate
  obtain ⟨_, hstep, hnil⟩ := exists_of_bind_ok hstep
  cases hnil
  rw [step] at hstep
  -- the step is taken from a directory, and above it there are directories only
  cases hl : s.get? l with
  | none => simp only [hl, reduceCtorEq] at hstep
  | some above =>
    cases above with
    | file bytes => simp only [hl, reduceCtorEq] at hstep
    | directory =>
      simp only [hl, if_true, Except.ok.injEq] at hstep
      subst hstep
      simp only [hs l hl, Except.ok.injEq] at hentry
      exact hentry.symm

theorem readFile?_of_step (hs : s.IsTree) {parts : List String} (hp : p.parts = parts ++ [".."]) :
    s.readFile? p = none := by
  rw [readFile?]
  cases h : s.find p with
  | error cause => rfl
  | ok e =>
    rw [find_of_step hs hp h]

end FileStore

/-! ## Paths and names -/

namespace FilePath

/-- A path leads from its parent to its name. -/
theorem child_name_parent {p : FilePath} (h : p.parts ≠ []) : p.parent.child p.name = p := by
  have hname : p.name = p.parts.getLast h := by
    rw [name, List.getLast?_eq_some_getLast h, Option.getD_some]
  have hparts : p.parts.dropLast ++ [p.name] = p.parts := by
    rw [hname, List.dropLast_concat_getLast]
  show ({ p with parts := p.parts.dropLast ++ [p.name] } : FilePath) = p
  rw [hparts]

theorem not_mem_of_mem_splitOn {c : Char} {cs piece : List Char} (h : piece ∈ cs.splitOn c) : c ∉ piece := by
  induction cs generalizing piece with
  | nil =>
    rw [List.splitOn_nil, List.mem_singleton] at h
    exact h ▸ List.not_mem_nil
  | cons d cs ih =>
    rw [List.splitOn_cons_eq_if_modifyHead] at h
    split at h
    · rcases List.mem_cons.mp h with rfl | h
      · exact List.not_mem_nil
      · exact ih h
    · rename_i hd
      -- a character that does not split is put in front of the first piece
      cases hrest : cs.splitOn c with
      | nil => exact absurd hrest (List.splitOn_ne_nil c cs)
      | cons first rest =>
        rw [hrest, List.modifyHead_cons] at h
        rcases List.mem_cons.mp h with rfl | h
        · have hfirst := ih (hrest ▸ List.mem_cons_self ..)
          exact fun hc => (List.mem_cons.mp hc).elim (fun hcd => hd (beq_iff_eq.mpr hcd.symm)) hfirst
        · exact ih (hrest ▸ List.mem_cons_of_mem first h)

/-- The names on a path are names: they hold no slash, and are neither empty nor a dot. -/
theorem part_spec {path part : String} (h : part ∈ (ofString path).parts) :
    pieces part = [part] ∧ (!(part.isEmpty || part == ".")) = true := by
  obtain ⟨hpiece, hkept⟩ := List.mem_filter.mp h
  refine ⟨?_, hkept⟩
  obtain ⟨cs, hcs, rfl⟩ := List.mem_map.mp hpiece
  rw [pieces, String.toList_ofList, List.splitOn_eq_singleton (not_mem_of_mem_splitOn hcs), List.map_singleton]

end FilePath

namespace Template

/-- **A path is found below its parent**, unless it ends with a step to the parent. -/
theorem templatePath?_name (path : String) (hname : (FilePath.ofString path).name ≠ "..") :
    templatePath? (FilePath.ofString path).parent (FilePath.ofString path).name =
      some (FilePath.ofString path) := by
  by_cases hparts : (FilePath.ofString path).parts = []
  · have hparent : (FilePath.ofString path).parent = FilePath.ofString path := by
      rw [FilePath.parent, hparts, List.dropLast_nil, ← hparts]
    have hempty : (FilePath.ofString path).name = "" := by rw [FilePath.name, hparts]; rfl
    have hpieces : FilePath.pieces "" = [""] := by decide +kernel
    rw [hparent, hempty, templatePath?, hpieces]
    rfl
  · have hlast : (FilePath.ofString path).name ∈ (FilePath.ofString path).parts := by
      rw [FilePath.name, List.getLast?_eq_some_getLast hparts, Option.getD_some]
      exact List.getLast_mem hparts
    obtain ⟨hpieces, hkept⟩ := FilePath.part_spec hlast
    have hinside : [(FilePath.ofString path).name].contains ".." = false := by
      rw [List.contains_cons, List.contains_nil, Bool.or_false]
      exact beq_eq_false_iff_ne.mpr hname.symm
    simp only [templatePath?, hpieces, hinside, Bool.false_eq_true, if_false, List.filter_cons, hkept, if_true,
      List.filter_nil, List.foldl_cons, List.foldl_nil, FilePath.child_name_parent hparts]

/-! ## Files and documents -/

variable {files : FileStore} {directory path : FilePath} {name : String}

theorem readDocument_missing (hpath : templatePath? directory name = some path)
    (hfile : files.readFile? path = none) : readDocument files directory name = .error .notFound := by
  simp only [readDocument, hpath, hfile]

/-- Bytes that encode no text are read as none. -/
theorem readDocument_notText {bytes : List UInt8} (hpath : templatePath? directory name = some path)
    (hfile : files.readFile? path = some bytes) (hbytes : ∀ cs, bytes ≠ encodeUtf8 cs) :
    ∃ f, readDocument files directory name = .error (.encoding f) := by
  cases hdecode : decodeUtf8 bytes with
  | ok cs => exact absurd (encodeUtf8_of_decodeUtf8 hdecode).symm (hbytes cs)
  | error f => exact ⟨f, by simp only [readDocument, hpath, hfile, hdecode]⟩

/-- **A file that holds the bytes of a text** is read as the text is. -/
theorem readDocument_text {source : String} (hpath : templatePath? directory name = some path)
    (hfile : files.readFile? path = some (encodeUtf8 source.toList)) :
    readDocument files directory name =
      (Document.ofText (some name) (isMarkupName name) source).mapError .form := by
  simp only [readDocument, hpath, hfile, decodeUtf8_encodeUtf8, String.ofList_toList]
  cases Document.ofText (some name) (isMarkupName name) source <;> rfl

end Template

end RenderBench
