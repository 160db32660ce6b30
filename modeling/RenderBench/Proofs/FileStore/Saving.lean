import RenderBench.Archive
import RenderBench.Proofs.Json.Cut

/-!
# `Proofs.FileStore.Saving` — writing into a directory

A file can be written where its directory is and no directory stands in its place. Changes never take a
directory away, so what a path leads to before a change it leads to after it, and the two files of a
result can be written one after the other.

## Contents
- `FileStore.KeepsDirectories`: changes that take no directory away; `locate_of_keeps`.
- `isDirectory_of_makeDirectories`: a directory that has been made is there.
- `FileStore.Writable`: directories that results can be saved into.
- `documentBytes`, `attempt_of_whole`, `attempt_of_cut`: what is written of a document.
- `exists_persist`: saving into one.
-/

namespace RenderBench

namespace FileStore

variable {s s' : FileStore} {l m : Location} {p : FilePath}

/-! ## Entries -/

theorem lookup_setEntry_self (l : Location) (e : Entry) (entries : List (Location × Entry)) :
    (setEntry l e entries).lookup l = some e := by
  induction entries with
  | nil => exact List.lookup_cons_self
  | cons entry rest ih =>
    obtain ⟨k, v⟩ := entry
    rw [setEntry]
    by_cases h : k = l
    · rw [if_pos h]
      exact List.lookup_cons_self
    · have hbeq : (l == k) = false := by simpa using Ne.symm h
      rw [if_neg h, List.lookup_cons, hbeq]
      exact ih

theorem lookup_setEntry_of_ne (h : m ≠ l) (e : Entry) (entries : List (Location × Entry)) :
    (setEntry l e entries).lookup m = entries.lookup m := by
  have hbeq : (m == l) = false := by simpa using h
  induction entries with
  | nil => rw [setEntry, List.lookup_cons, hbeq]
  | cons entry rest ih =>
    obtain ⟨k, v⟩ := entry
    rw [setEntry]
    by_cases hk : k = l
    · rw [if_pos hk, List.lookup_cons, List.lookup_cons, hk, hbeq]
    · rw [if_neg hk, List.lookup_cons, List.lookup_cons, ih]

theorem get?_put_of_ne (h : m ≠ l) (e : Entry) : (s.put l e).get? m = s.get? m := by
  unfold get? put
  rw [lookup_setEntry_of_ne h]

theorem get?_put_self (h : l ≠ []) (e : Entry) : (s.put l e).get? l = some e := by
  have hempty : ¬ l.isEmpty := by simpa using h
  rw [get?, if_neg hempty]
  exact lookup_setEntry_self l e s.entries

/-! ## Changes that keep directories -/

/-- A change after which every directory is still there. -/
def KeepsDirectories (s s' : FileStore) : Prop :=
  ∀ l, s.get? l = some .directory → s'.get? l = some .directory

theorem keepsDirectories_put (h : s.get? l ≠ some .directory) (e : Entry) :
    s.KeepsDirectories (s.put l e) := by
  intro m hm
  have hne : m ≠ l := by
    rintro rfl
    exact h hm
  rw [get?_put_of_ne hne, hm]

theorem step_of_keeps (h : s.KeepsDirectories s') {name : String}
    (hstep : s.step l name = .ok m) : s'.step l name = .ok m := by
  unfold step at hstep ⊢
  cases hl : s.get? l with
  | none =>
    rw [hl] at hstep
    cases hstep
  | some entry =>
    rw [hl] at hstep
    cases entry with
    | file bytes => cases hstep
    | directory =>
      rw [h l hl]
      exact hstep

/-- A path leads where it led before. -/
theorem locate_of_keeps (h : s.KeepsDirectories s') (hlocate : s.locate p = .ok l) :
    s'.locate p = .ok l := by
  unfold locate at hlocate ⊢
  generalize (if p.root.isEmpty then workingDirectory else []) = start at hlocate ⊢
  generalize p.parts = parts at hlocate ⊢
  -- every step of the walk is one that the first store takes as well
  induction parts generalizing start with
  | nil => exact hlocate
  | cons name names ih =>
    rw [List.foldlM_cons] at hlocate ⊢
    cases hstep : s.step start name with
    | error cause =>
      rw [hstep] at hlocate
      cases hlocate
    | ok next =>
      rw [hstep] at hlocate
      rw [step_of_keeps h hstep]
      exact ih next hlocate

/-! ## Directories that are made -/

theorem isDirectory_iff :
    s.isDirectory p = true ↔ ∃ l, s.locate p = .ok l ∧ s.get? l = some .directory := by
  unfold isDirectory find
  cases s.locate p with
  | error cause => simp [bind, Except.bind]
  | ok l =>
    cases hl : s.get? l with
    | none => simp [bind, Except.bind, hl]
    | some entry => cases entry <;> simp [bind, Except.bind, hl]

theorem isDirectory_of_keeps (h : s.KeepsDirectories s') (hdirectory : s.isDirectory p) :
    s'.isDirectory p := by
  obtain ⟨l, hlocate, hl⟩ := isDirectory_iff.mp hdirectory
  exact isDirectory_iff.mpr ⟨l, locate_of_keeps h hlocate, h l hl⟩

theorem isDirectory_of_makeDirectory (h : s.makeDirectory p = .ok s') : s'.isDirectory p := by
  unfold makeDirectory at h
  cases hlocate : s.locate p with
  | error cause =>
    rw [hlocate] at h
    cases h
  | ok l =>
    rw [hlocate] at h
    cases hl : s.get? l with
    | some entry =>
      simp only [hl] at h
      cases h
    | none =>
      simp only [hl] at h
      obtain rfl := Except.ok.inj h
      -- the root is there, so the new directory is none of it
      have hne : l ≠ [] := by
        rintro rfl
        cases hl
      have hkeeps : s.KeepsDirectories (s.put l .directory) :=
        keepsDirectories_put (by simp [hl]) _
      exact isDirectory_iff.mpr ⟨l, locate_of_keeps hkeeps hlocate, get?_put_self hne _⟩

theorem isDirectory_of_ensureDirectory (h : s.ensureDirectory p = .ok s') : s'.isDirectory p := by
  unfold ensureDirectory at h
  cases hmake : s.makeDirectory p with
  | ok made =>
    rw [hmake] at h
    obtain rfl := Except.ok.inj h
    exact isDirectory_of_makeDirectory hmake
  | error e =>
    rw [hmake] at h
    simp only at h
    by_cases hcause : e.cause = .notFound
    · rw [if_pos hcause] at h
      cases h
    rw [if_neg hcause] at h
    by_cases hdirectory : s.isDirectory p
    · rw [if_pos hdirectory] at h
      obtain rfl := Except.ok.inj h
      exact hdirectory
    · rw [if_neg hdirectory] at h
      cases h

/-- Whichever way the directories above it are made, the last step makes the directory itself. -/
theorem isDirectory_of_makeDirectories (h : s.makeDirectories p = (s', .ok ())) :
    s'.isDirectory p := by
  unfold makeDirectories makeDirectoriesWithin at h
  cases hensure : s.ensureDirectory p with
  | ok made =>
    simp only [hensure] at h
    obtain rfl := (Prod.mk.inj h).1
    exact isDirectory_of_ensureDirectory hensure
  | error e =>
    simp only [hensure] at h
    split at h
    · split at h
      · cases h
      · split at h
        -- the directories above were missing, and this one has been tried again
        case h_1 hagain =>
          obtain rfl := (Prod.mk.inj h).1
          exact isDirectory_of_ensureDirectory hagain
        case h_2 => cases h
    · cases h

/-! ## Files in a directory -/

theorem locate_child {name : String} (hname : name ≠ "..") (hlocate : s.locate p = .ok l)
    (hl : s.get? l = some .directory) : s.locate (p.child name) = .ok (l ++ [name]) := by
  unfold locate at hlocate ⊢
  rw [FilePath.child, List.foldlM_append, hlocate]
  show s.step l name >>= pure = _
  rw [step, hl]
  simp only [if_neg hname]
  rfl

/-- A file can be written into a directory that is there, where no directory stands in its place. -/
theorem exists_writeFile {name : String} (hname : name ≠ "..") (hdirectory : s.isDirectory p)
    (hfree : ¬ s.isDirectory (p.child name)) (bytes : List UInt8) :
    ∃ l, s.writeFile (p.child name) bytes = .ok (s.put l (.file bytes)) ∧
      s.get? l ≠ some .directory := by
  obtain ⟨l, hlocate, hl⟩ := isDirectory_iff.mp hdirectory
  have hchild := locate_child hname hlocate hl
  have hplace : s.get? (l ++ [name]) ≠ some .directory := fun h =>
    hfree (isDirectory_iff.mpr ⟨_, hchild, h⟩)
  refine ⟨l ++ [name], ?_, hplace⟩
  rw [writeFile, hchild]
  -- no directory is there, so the case of writing is left
  simp only

/-- A file makes no directory. -/
theorem not_isDirectory_put {name : String} (hname : name ≠ "..") {bytes : List UInt8}
    (hdirectory : s.isDirectory p) (hfree : ¬ s.isDirectory (p.child name))
    (hm : s.get? m ≠ some .directory) : ¬ (s.put m (.file bytes)).isDirectory (p.child name) := by
  obtain ⟨l, hlocate, hl⟩ := isDirectory_iff.mp hdirectory
  have hchild := locate_child hname hlocate hl
  have hroot : m ≠ [] := by
    rintro rfl
    exact hm rfl
  intro hput
  obtain ⟨l', hlocate', hl'⟩ := isDirectory_iff.mp hput
  have hstays := locate_of_keeps (keepsDirectories_put hm (.file bytes)) hchild
  obtain rfl := Except.ok.inj (hstays.symm.trans hlocate')
  -- the place is the old one, with the file in it or with what was there before
  by_cases hsame : l ++ [name] = m
  · rw [hsame, get?_put_self hroot] at hl'
    cases hl'
  · rw [get?_put_of_ne hsame] at hl'
    exact hfree (isDirectory_iff.mpr ⟨_, hchild, hl'⟩)

/-- Two files can be written one after the other. -/
theorem exists_writeFile_twice {first second : String} (hfirst : first ≠ "..") (hsecond : second ≠ "..")
    (hdirectory : s.isDirectory p) (hfree : ¬ s.isDirectory (p.child first))
    (hfree' : ¬ s.isDirectory (p.child second)) (bytes : List UInt8) :
    ∃ between after, s.writeFile (p.child first) bytes = .ok between ∧
      between.writeFile (p.child second) bytes = .ok after := by
  obtain ⟨l, hwrite, hl⟩ := exists_writeFile hfirst hdirectory hfree bytes
  obtain ⟨_, hwrite', _⟩ := exists_writeFile hsecond
    (isDirectory_of_keeps (keepsDirectories_put hl _) hdirectory)
    (not_isDirectory_put hsecond hdirectory hfree' hl) bytes
  exact ⟨_, _, hwrite, hwrite'⟩

/-! ## Saving a result -/

/-- A directory that files of the given names can be written into, once it has been made: it can be made,
    and no directory has one of the names. -/
structure Writable (s : FileStore) (directory : FilePath) (names : List String) : Prop where
  made : (s.makeDirectories directory).2 = .ok ()
  free : ∀ name ∈ names, ¬ (s.makeDirectories directory).1.isDirectory (directory.child name)

end FileStore

open FileStore

theorem archiveName_ne_parent (now : Int) : archiveName now ≠ ".." := by
  intro h
  have hlist := congrArg String.toList h
  simp [archiveName] at hlist

/-- The bytes of a document that is saved. -/
def documentBytes (payload : Json) : List UInt8 := encodeUtf8 payload.sorted.writeIndented.toList

theorem documentBytes_eq (payload : Json) : documentBytes payload = encodeUtf8 (payload.sorted.indentedChars 0) := by
  rw [documentBytes, Json.writeIndented, String.toList_ofList]

theorem attempt_of_whole {document : Json} (h : document.cut? 0 = none) :
    attempt document = (document.indentedChars 0, .ok ()) := by
  rw [attempt, h]

theorem attempt_of_cut {document : Json} {cut : List Char} (h : document.cut? 0 = some cut) :
    attempt document = (cut, .error .digits) := by
  rw [attempt, h]

theorem writeDocument_of_ok {s s' : FileStore} {p : FilePath} {document : Json}
    (h : s.writeFile p (encodeUtf8 (attempt document).1) = .ok s') :
    writeDocument s p document = (s', (attempt document).2) := by
  rw [writeDocument, h]

theorem writeDocument_of_error {s : FileStore} {p : FilePath} {document : Json} {e : FileError}
    (h : s.writeFile p (encodeUtf8 (attempt document).1) = .error e) :
    writeDocument s p document = (s, .error (.file e)) := by
  rw [writeDocument, h]

theorem archivePayload_of_toJson (now : Int) {r : SessionResult} {json : Json} (h : r.toJson true = .ok json) :
    archivePayload now r =
      .ok (.object [("timestamp", .text (Civil.ofMicros now).isoTimestamp), ("result", json)]) := by
  rw [archivePayload, h]
  rfl

/-- **Saving a result** that has a document of short integers succeeds in a directory that can be written into. -/
theorem exists_persist {files : FileStore} {now : Int} {directory : String} {r : SessionResult}
    (h : files.Writable (FilePath.ofString directory) [latestName, archiveName now])
    (hjson : ∃ json, r.toJson true = .ok json ∧ json.AllShort) :
    ∃ after saved, persist files now directory r = (after, .ok saved) := by
  obtain ⟨json, hjson, hshort⟩ := hjson
  have hpayload := archivePayload_of_toJson now hjson
  generalize hdocument : Json.object [("timestamp", .text (Civil.ofMicros now).isoTimestamp), ("result", json)] =
    document at hpayload
  have hwhole : document.sorted.cut? 0 = none := by
    refine (Json.cut?_eq_none_iff _).mpr (Json.allShort_sorted ?_)
    rw [← hdocument]
    exact ⟨rfl, hshort, trivial⟩
  have hmade : files.makeDirectories (FilePath.ofString directory) =
      ((files.makeDirectories (FilePath.ofString directory)).1, .ok ()) := Prod.ext rfl h.made
  obtain ⟨between, after, hlatest, harchive⟩ := exists_writeFile_twice (by decide)
    (archiveName_ne_parent now) (isDirectory_of_makeDirectories hmade)
    (h.free latestName (by simp)) (h.free (archiveName now) (by simp))
    (encodeUtf8 (attempt document.sorted).1)
  have hanswer : (attempt document.sorted).2 = .ok () := congrArg Prod.snd (attempt_of_whole hwhole)
  simp only [persist]
  rw [hmade]
  simp only [hpayload, writeDocument_of_ok hlatest, writeDocument_of_ok harchive, hanswer]
  exact ⟨_, _, rfl⟩

end RenderBench
