import RenderBench.Proofs.Calendar.Stamp
import RenderBench.Proofs.FileStore.Saving
import RenderBench.Proofs.Json.Writing
import RenderBench.Proofs.Stepwise
import RenderBench.Proofs.Text.Utf8

/-!
# `Proofs.FileStore.Archives` — what a row of saves leaves in the archives

A save makes directories and writes two files, and touches nothing else. The archive is named by the second of the save,
so that two saves into one directory within a second have one archive, and the later one is written over the earlier
one. In the end an archive holds the last save of its second into its directory.

## Contents
- `FileStore.KeepsEntries`, `FileStore.AddsDirectories`: changes that only add; making directories is one.
- `saveEnd_persist`: the ways a save ends, `SaveEnd`.
- `exists_of_persist`: what a save that succeeds changes, `SaveChange`.
- `Save`, `History`: a row of saves that succeed.
- `History.archive_holds`: what the archives hold in the end; `archive_lost`: a save that is not kept.
-/

namespace RenderBench

namespace FileStore

variable {s s' s'' : FileStore} {l m : Location} {p : FilePath}

/-! ## Changes that only add -/

/-- A change after which everything is still there as it was. -/
def KeepsEntries (s s' : FileStore) : Prop := ∀ l e, s.get? l = some e → s'.get? l = some e

theorem KeepsEntries.keepsDirectories (h : s.KeepsEntries s') : s.KeepsDirectories s' := fun l hl => h l _ hl

/-- A change that makes directories where nothing was, and does nothing else. -/
def AddsDirectories (s s' : FileStore) : Prop :=
  ∀ l, s'.get? l = s.get? l ∨ s.get? l = none ∧ s'.get? l = some .directory

namespace AddsDirectories

theorem refl (s : FileStore) : s.AddsDirectories s := fun _ => .inl rfl

theorem trans (h : s.AddsDirectories s') (h' : s'.AddsDirectories s'') : s.AddsDirectories s'' := by
  intro l
  rcases h l with hsame | ⟨hnone, hmade⟩
  · rcases h' l with hsame' | ⟨hnone', hmade'⟩
    · exact .inl (hsame'.trans hsame)
    · exact .inr ⟨hsame.symm.trans hnone', hmade'⟩
  · rcases h' l with hsame' | ⟨hnone', -⟩
    · exact .inr ⟨hnone, hsame'.trans hmade⟩
    · rw [hmade] at hnone'
      cases hnone'

theorem keepsEntries (h : s.AddsDirectories s') : s.KeepsEntries s' := by
  intro l e he
  rcases h l with hsame | ⟨hnone, -⟩
  · exact hsame.trans he
  · rw [he] at hnone
    cases hnone

/-- No file is new. -/
theorem get?_file_iff (h : s.AddsDirectories s') {bytes : List UInt8} :
    s'.get? l = some (.file bytes) ↔ s.get? l = some (.file bytes) := by
  constructor
  · intro hfile
    rcases h l with hsame | ⟨-, hmade⟩
    · exact hsame.symm.trans hfile
    · rw [hmade] at hfile
      cases hfile
  · exact h.keepsEntries l _

end AddsDirectories

theorem addsDirectories_put (h : s.get? l = none) : s.AddsDirectories (s.put l .directory) := by
  intro m
  by_cases hm : m = l
  · -- the root is there, so nothing new is put in its place
    have hroot : l ≠ [] := by
      rintro rfl
      cases h
    rw [hm]
    exact .inr ⟨h, get?_put_self hroot _⟩
  · exact .inl (get?_put_of_ne hm _)

theorem addsDirectories_makeDirectory (h : s.makeDirectory p = .ok s') : s.AddsDirectories s' := by
  unfold makeDirectory at h
  cases hlocate : s.locate p with
  | error cause =>
    rw [hlocate] at h
    cases h
  | ok l =>
    rw [hlocate] at h
    cases hl : s.get? l with
    | some entry =>
      simp only [hl] at h
      cases h
    | none =>
      simp only [hl] at h
      obtain rfl := Except.ok.inj h
      exact addsDirectories_put hl

theorem addsDirectories_ensureDirectory (h : s.ensureDirectory p = .ok s') : s.AddsDirectories s' := by
  unfold ensureDirectory at h
  cases hmake : s.makeDirectory p with
  | ok made =>
    rw [hmake] at h
    obtain rfl := Except.ok.inj h
    exact addsDirectories_makeDirectory hmake
  | error e =>
    -- nothing is made: what is left is a failure, or a directory that was there before
    rw [hmake] at h
    simp only at h
    split at h
    · cases h
    · split at h
      · obtain rfl := Except.ok.inj h
        exact .refl s
      · cases h

theorem addsDirectories_makeDirectoriesWithin (fuel : Nat) (p : FilePath) :
    s.AddsDirectories (makeDirectoriesWithin fuel s p).1 := by
  induction fuel generalizing p with
  | zero => exact .refl s
  | succ fuel ih =>
    unfold makeDirectoriesWithin
    cases hensure : s.ensureDirectory p with
    | ok made => exact addsDirectories_ensureDirectory hensure
    | error e =>
      -- the parent was missing: it is made first, and the directory is tried again
      have hparent := ih p.parent
      dsimp only
      split
      · split
        · next hfailed =>
          rw [hfailed] at hparent
          exact hparent
        · next hmade =>
          rw [hmade] at hparent
          split
          · next hagain => exact hparent.trans (addsDirectories_ensureDirectory hagain)
          · exact hparent
      · exact .refl s

theorem addsDirectories_makeDirectories (s : FileStore) (p : FilePath) :
    s.AddsDirectories (s.makeDirectories p).1 :=
  addsDirectories_makeDirectoriesWithin (p.parts.length + 1) p

/-! ## Why a directory is not made -/

theorem step_ne_isADirectory {name : String} : s.step l name ≠ .error .isADirectory := by
  unfold step
  split
  · nofun
  · nofun
  · nofun

theorem locate_ne_isADirectory : s.locate p ≠ .error .isADirectory := by
  unfold locate
  generalize (if p.root.isEmpty then workingDirectory else []) = start
  generalize p.parts = parts
  -- the walk goes on from wherever the parts before have led
  induction parts generalizing start with
  | nil => nofun
  | cons name names ih =>
    rw [List.foldlM_cons]
    intro h
    cases hstep : s.step start name with
    | error cause =>
      rw [hstep] at h
      rw [Except.error.inj h] at hstep
      exact step_ne_isADirectory hstep
    | ok next =>
      rw [hstep] at h
      exact ih next h

theorem makeDirectory_cause {e : FileError} (h : s.makeDirectory p = .error e) : e.cause ≠ .isADirectory := by
  unfold makeDirectory at h
  cases hlocate : s.locate p with
  | error cause =>
    rw [hlocate] at h
    obtain rfl := Except.error.inj h
    rintro rfl
    exact locate_ne_isADirectory hlocate
  | ok l =>
    rw [hlocate] at h
    dsimp only at h
    split at h
    · obtain rfl := Except.error.inj h
      nofun
    · cases h

theorem ensureDirectory_cause {e : FileError} (h : s.ensureDirectory p = .error e) : e.cause ≠ .isADirectory := by
  unfold ensureDirectory at h
  cases hmake : s.makeDirectory p with
  | ok made =>
    rw [hmake] at h
    cases h
  | error e' =>
    -- whichever way it fails, the failure is that of making it
    have hcause := makeDirectory_cause hmake
    rw [hmake] at h
    simp only at h
    split at h
    · rwa [← Except.error.inj h]
    · split at h
      · cases h
      · rwa [← Except.error.inj h]

theorem makeDirectoriesWithin_cause {fuel : Nat} {e : FileError} (h : (makeDirectoriesWithin fuel s p).2 = .error e) :
    e.cause ≠ .isADirectory := by
  induction fuel generalizing p with
  | zero =>
    obtain rfl := Except.error.inj h
    nofun
  | succ fuel ih =>
    unfold makeDirectoriesWithin at h
    split at h
    · cases h
    · next hensure =>
      split at h
      · split at h
        · next hfailed => exact ih (by rw [hfailed]; exact h)
        · split at h
          · cases h
          · next hagain =>
            obtain rfl := Except.error.inj h
            exact ensureDirectory_cause hagain
      · obtain rfl := Except.error.inj h
        exact ensureDirectory_cause hensure

theorem makeDirectories_cause {e : FileError} (h : (s.makeDirectories p).2 = .error e) : e.cause ≠ .isADirectory :=
  makeDirectoriesWithin_cause h

/-! ## Files in a directory -/

/-- A file is written into a directory unless a directory has its name. -/
theorem writeFile_child {name : String} (hname : name ≠ "..") (hlocate : s.locate p = .ok l)
    (hl : s.get? l = some .directory) (bytes : List UInt8) :
    s.writeFile (p.child name) bytes =
      if s.get? (l ++ [name]) = some .directory then .error ⟨.isADirectory, (p.child name).text⟩
      else .ok (s.put (l ++ [name]) (.file bytes)) := by
  rw [writeFile, locate_child hname hlocate hl]
  dsimp only
  split
  · next hdirectory => rw [if_pos hdirectory]
  · next hnot => rw [if_neg hnot]

/-- A document is written into a directory unless a directory has its name. -/
theorem writeDocument_child {name : String} (hname : name ≠ "..") (hlocate : s.locate p = .ok l)
    (hl : s.get? l = some .directory) (document : Json) :
    writeDocument s (p.child name) document =
      if s.get? (l ++ [name]) = some .directory then (s, .error (.file ⟨.isADirectory, (p.child name).text⟩))
      else (s.put (l ++ [name]) (.file (encodeUtf8 (attempt document).1)), (attempt document).2) := by
  have hwrite := writeFile_child hname hlocate hl (encodeUtf8 (attempt document).1)
  by_cases htaken : s.get? (l ++ [name]) = some .directory
  · rw [if_pos htaken] at hwrite ⊢
    exact writeDocument_of_error hwrite
  · rw [if_neg htaken] at hwrite ⊢
    exact writeDocument_of_ok hwrite

theorem readFile?_of_locate {bytes : List UInt8} (hlocate : s.locate p = .ok l) (hl : s.get? l = some (.file bytes)) :
    s.readFile? p = some bytes := by
  unfold readFile? find
  rw [hlocate]
  simp only [bind, Except.bind, hl]

/-! ## Texts of paths -/

theorem exists_intercalate (sep : List Char) (parts : List (List Char)) :
    ∃ front, ∀ last, sep.intercalate (parts ++ [last]) = front ++ last := by
  induction parts with
  | nil =>
    refine ⟨[], fun last => ?_⟩
    rw [List.nil_append, List.intercalate_singleton, List.nil_append]
  | cons part parts ih =>
    obtain ⟨front, hfront⟩ := ih
    refine ⟨part ++ (sep ++ front), fun last => ?_⟩
    rw [List.cons_append, List.intercalate_cons_of_ne_nil (List.append_ne_nil_of_right_ne_nil _ (List.cons_ne_nil _ _)),
      hfront]
    simp only [List.append_assoc]

/-- The last name of a path ends its text. -/
theorem exists_text_child (p : FilePath) : ∃ front, ∀ name, (p.child name).text.toList = front ++ name.toList := by
  obtain ⟨front, hfront⟩ := exists_intercalate "/".toList (p.parts.map String.toList)
  refine ⟨p.root.toList ++ front, fun name => ?_⟩
  have hparts : (p.parts ++ [name]).isEmpty = false := by
    rw [List.isEmpty_eq_false_iff]
    exact List.append_ne_nil_of_right_ne_nil _ (List.cons_ne_nil _ _)
  simp only [FilePath.text, FilePath.child, hparts, Bool.and_false, Bool.false_eq_true, if_false, String.toList_append,
    String.toList_intercalate, List.map_append, List.map_singleton, hfront, List.append_assoc]

theorem text_child_inj {name other : String} (h : (p.child name).text = (p.child other).text) : name = other := by
  obtain ⟨front, hfront⟩ := exists_text_child p
  have hlist := congrArg String.toList h
  rw [hfront, hfront] at hlist
  exact String.toList_inj.mp (List.append_cancel_left hlist)

end FileStore

open FileStore

/-! ## One save -/

theorem archiveName_ne_latestName (now : Int) : archiveName now ≠ latestName := by
  intro h
  have hlist := congrArg String.toList h
  simp [archiveName, latestName] at hlist

theorem archiveName_eq_iff {now later : Int} :
    archiveName now = archiveName later ↔ now / 1000000 = later / 1000000 := by
  rw [← archiveStamp_eq_iff]
  constructor
  · intro h
    have hlist := congrArg String.toList h
    simp only [archiveName, String.toList_append] at hlist
    exact String.toList_inj.mp (List.append_cancel_left (List.append_cancel_right hlist))
  · intro h
    rw [archiveName, archiveName, h]

/-- What is read from the bytes of a saved document. -/
theorem read?_documentBytes (payload : Json) :
    ∃ cs, decodeUtf8 (documentBytes payload) = .ok cs ∧ Json.read? (String.ofList cs) = some payload.sorted := by
  refine ⟨payload.sorted.writeIndented.toList, decodeUtf8_encodeUtf8 _, ?_⟩
  rw [String.ofList_toList]
  exact Json.read?_writeIndented payload.sorted

theorem sorted_eq_of_documentBytes {payload other : Json} (h : documentBytes payload = documentBytes other) :
    payload.sorted = other.sorted := by
  obtain ⟨cs, hdecode, hread⟩ := read?_documentBytes payload
  obtain ⟨cs', hdecode', hread'⟩ := read?_documentBytes other
  rw [h, hdecode'] at hdecode
  obtain rfl := Except.ok.inj hdecode
  exact Option.some.inj (hread.symm.trans hread')

/-- The document of a save has two members, the result and the time. -/
theorem sorted_archivePayload {now : Int} {r : SessionResult} {payload : Json}
    (h : archivePayload now r = .ok payload) :
    ∃ result, r.toJson true = .ok result ∧ payload.sorted =
      .object [("result", result.sorted), ("timestamp", .text (Civil.ofMicros now).isoTimestamp)] := by
  unfold archivePayload at h
  obtain ⟨result, hresult, hpayload⟩ := exists_of_bind_ok h
  obtain rfl := Except.ok.inj hpayload
  refine ⟨result, hresult, ?_⟩
  have horder : "result" < "timestamp" := by decide
  simp only [Json.sorted, Json.sortedMembers, Json.insertMember, if_pos horder]

/-- What a save changes: in its directory the latest result and the archive are written, and every other file and
    directory is kept. -/
structure SaveChange (s : FileStore) (now : Int) (directory : FilePath) (l : Location) (bytes : List UInt8)
    (s' : FileStore) : Prop where
  keepsDirectories : s.KeepsDirectories s'
  locate : s'.locate directory = .ok l
  isDirectory : s'.get? l = some .directory
  latest : s'.get? (l ++ [latestName]) = some (.file bytes)
  archive : s'.get? (l ++ [archiveName now]) = some (.file bytes)
  elsewhere : ∀ m e, m ≠ l ++ [latestName] → m ≠ l ++ [archiveName now] → s.get? m = some e → s'.get? m = some e

variable {s s' made : FileStore} {now : Int} {directory : FilePath} {l : Location} {bytes : List UInt8}

theorem append_name_inj {l m : Location} {name other : String} (h : l ++ [name] = m ++ [other]) :
    l = m ∧ name = other := by
  obtain ⟨hl, hnames⟩ := List.append_inj' h (by rw [List.length_singleton, List.length_singleton])
  exact ⟨hl, List.singleton_inj.mp hnames⟩

theorem archivePlace_ne_latestPlace (l m : Location) (now : Int) : l ++ [archiveName now] ≠ m ++ [latestName] := by
  intro h
  exact archiveName_ne_latestName now (append_name_inj h).2

theorem archivePlace_inj {l m : Location} {now later : Int} (h : l ++ [archiveName now] = m ++ [archiveName later]) :
    l = m ∧ now / 1000000 = later / 1000000 := by
  obtain ⟨hl, hnames⟩ := append_name_inj h
  exact ⟨hl, archiveName_eq_iff.mp hnames⟩

theorem saveChange_put (hmade : s.KeepsEntries made) (hlocate : made.locate directory = .ok l)
    (hl : made.get? l = some .directory) (hlatest : made.get? (l ++ [latestName]) ≠ some .directory)
    (harchive : made.get? (l ++ [archiveName now]) ≠ some .directory) :
    SaveChange s now directory l bytes
      ((made.put (l ++ [latestName]) (.file bytes)).put (l ++ [archiveName now]) (.file bytes)) := by
  have hne := archivePlace_ne_latestPlace l l now
  have hroot (name : String) : l ++ [name] ≠ [] := List.append_ne_nil_of_right_ne_nil _ (List.cons_ne_nil _ _)
  have hput : made.KeepsDirectories (made.put (l ++ [latestName]) (.file bytes)) := keepsDirectories_put hlatest _
  have hputs : made.KeepsDirectories
      ((made.put (l ++ [latestName]) (.file bytes)).put (l ++ [archiveName now]) (.file bytes)) := by
    intro m hm
    refine keepsDirectories_put ?_ _ m (hput m hm)
    rwa [get?_put_of_ne hne]
  constructor
  case keepsDirectories =>
    intro m hm
    exact hputs m (hmade m _ hm)
  case locate => exact locate_of_keeps hputs hlocate
  case isDirectory => exact hputs l hl
  case latest => rw [get?_put_of_ne hne.symm, get?_put_self (hroot _)]
  case archive => exact get?_put_self (hroot _) _
  case elsewhere =>
    intro m e hm hm' he
    rw [get?_put_of_ne hm', get?_put_of_ne hm]
    exact hmade m e he

/-- The failure of a save whose archive has the name of a directory. -/
def archiveTaken (directory : FilePath) (now : Int) : PersistError :=
  .file ⟨.isADirectory, (directory.child (archiveName now)).text⟩

/-- A save that gets as far as its first file: the directory is there and so is the document, and no directory stands in
    the place of the latest result. -/
structure SaveOpened (s : FileStore) (now : Int) (directory : FilePath) (r : SessionResult) (made : FileStore)
    (l : Location) (payload : Json) : Prop where
  added : s.AddsDirectories made
  locate : made.locate directory = .ok l
  isDirectory : made.get? l = some .directory
  payload_eq : archivePayload now r = .ok payload
  free : made.get? (l ++ [latestName]) ≠ some .directory

/-- What a save can come to: it is given up before anything is written, it stops in the middle of the latest result or
    when that has been written, or it writes both files. -/
inductive SaveEnd (s : FileStore) (now : Int) (directory : FilePath) (r : SessionResult) :
    FileStore × Except PersistError (FilePath × Log.Record) → Prop
  | refused {made : FileStore} {e : PersistError} (added : s.AddsDirectories made)
      (reason : e ≠ archiveTaken directory now ∧ e ≠ .digits) : SaveEnd s now directory r (made, .error e)
  | cut {made : FileStore} {l : Location} {payload : Json} {text : List Char}
      (opened : SaveOpened s now directory r made l payload) (cut : payload.sorted.cut? 0 = some text) :
      SaveEnd s now directory r (made.put (l ++ [latestName]) (.file (encodeUtf8 text)), .error .digits)
  | halfway {made : FileStore} {l : Location} {payload : Json} (opened : SaveOpened s now directory r made l payload)
      (taken : made.get? (l ++ [archiveName now]) = some .directory) :
      SaveEnd s now directory r
        (made.put (l ++ [latestName]) (.file (documentBytes payload)), .error (archiveTaken directory now))
  | complete {made : FileStore} {l : Location} {payload : Json} (opened : SaveOpened s now directory r made l payload)
      (untaken : made.get? (l ++ [archiveName now]) ≠ some .directory) :
      SaveEnd s now directory r
        ((made.put (l ++ [latestName]) (.file (documentBytes payload))).put (l ++ [archiveName now])
            (.file (documentBytes payload)),
          .ok (directory.child (archiveName now),
            persisted (directory.child latestName) (directory.child (archiveName now))))

theorem archiveTaken_ne_digits (directory : FilePath) (now : Int) : archiveTaken directory now ≠ .digits := nofun

/-- **What a save does**, whichever way it ends. -/
theorem saveEnd_persist (s : FileStore) (now : Int) (directory : String) (r : SessionResult) :
    SaveEnd s now (FilePath.ofString directory) r (persist s now directory r) := by
  unfold persist
  generalize FilePath.ofString directory = p
  have hadded := addsDirectories_makeDirectories s p
  dsimp only
  rcases hmade : s.makeDirectories p with ⟨made, failure | ⟨⟩⟩
  · rw [hmade] at hadded
    refine .refused hadded ⟨?_, nofun⟩
    intro h
    have hcause := makeDirectories_cause (congrArg Prod.snd hmade)
    rw [PersistError.file.inj h] at hcause
    exact hcause rfl
  rw [hmade] at hadded
  obtain ⟨l, hlocate, hl⟩ := isDirectory_iff.mp (isDirectory_of_makeDirectories hmade)
  dsimp only
  cases hpayload : archivePayload now r with
  | error e => exact .refused hadded ⟨nofun, nofun⟩
  | ok payload =>
    have hname : latestName ≠ ".." := by decide
    have hwrite := writeDocument_child hname hlocate hl payload.sorted
    dsimp only
    rw [hwrite]
    by_cases hfree : made.get? (l ++ [latestName]) = some .directory
    · rw [if_pos hfree]
      refine .refused hadded ⟨?_, nofun⟩
      intro h
      -- the failure tells the path of the other file
      have htext := congrArg FileError.path (PersistError.file.inj h)
      exact archiveName_ne_latestName now (text_child_inj htext).symm
    rw [if_neg hfree]
    have hopened : SaveOpened s now p r made l payload := ⟨hadded, hlocate, hl, hpayload, hfree⟩
    cases hcut : payload.sorted.cut? 0 with
    | some text =>
      rw [attempt_of_cut hcut]
      exact .cut hopened hcut
    | none =>
      -- the document is written to the end, into both files
      rw [attempt_of_whole hcut, ← documentBytes_eq]
      have hput := keepsDirectories_put hfree (.file (documentBytes payload))
      have hwrite' := writeDocument_child (archiveName_ne_parent now) (locate_of_keeps hput hlocate) (hput l hl)
        payload.sorted
      rw [get?_put_of_ne (archivePlace_ne_latestPlace l l now), attempt_of_whole hcut, ← documentBytes_eq] at hwrite'
      dsimp only
      rw [hwrite']
      by_cases htaken : made.get? (l ++ [archiveName now]) = some .directory
      · rw [if_pos htaken]
        exact .halfway hopened htaken
      · rw [if_neg htaken]
        exact .complete hopened htaken

theorem exists_of_persist {directory : String} {r : SessionResult} {saved : FilePath × Log.Record}
    (h : persist s now directory r = (s', .ok saved)) :
    ∃ payload l, archivePayload now r = .ok payload ∧
      saved.1 = (FilePath.ofString directory).child (archiveName now) ∧
        SaveChange s now (FilePath.ofString directory) l (documentBytes payload) s' := by
  have hend := saveEnd_persist s now directory r
  rw [h] at hend
  cases hend with
  | complete opened untaken =>
    exact ⟨_, _, opened.payload_eq, rfl,
      saveChange_put opened.added.keepsEntries opened.locate opened.isDirectory opened.free untaken⟩

/-! ## A row of saves -/

/-- A result that is saved, with the time and the directory, and the path of the archive that the save tells. -/
structure Save where
  now : Int
  directory : String
  result : SessionResult
  path : FilePath

/-- Saves one after the other, each of which succeeds. -/
inductive History : FileStore → List Save → FileStore → Prop
  | nil (s : FileStore) : History s [] s
  | cons {s s' s'' : FileStore} {c : Save} {later : List Save} {notice : Log.Record}
      (save : persist s c.now c.directory c.result = (s', .ok (c.path, notice)))
      (rest : History s' later s'') : History s (c :: later) s''

/-- What is at a path is the document of a save. -/
def FileStore.Holds (s : FileStore) (path : FilePath) (c : Save) : Prop :=
  ∃ payload, archivePayload c.now c.result = .ok payload ∧ s.readFile? path = some (documentBytes payload)

theorem FileStore.Holds.isoTimestamp_eq {s : FileStore} {path : FilePath} {c d : Save} (hc : s.Holds path c)
    (hd : s.Holds path d) : (Civil.ofMicros c.now).isoTimestamp = (Civil.ofMicros d.now).isoTimestamp := by
  obtain ⟨payload, hpayload, hread⟩ := hc
  obtain ⟨other, hother, hread'⟩ := hd
  obtain ⟨_, _, hsorted⟩ := sorted_archivePayload hpayload
  obtain ⟨_, _, hsorted'⟩ := sorted_archivePayload hother
  have hdocuments := sorted_eq_of_documentBytes (Option.some.inj (hread.symm.trans hread'))
  rw [hsorted, hsorted'] at hdocuments
  simp only [Json.object.injEq, List.cons.injEq, Prod.mk.injEq, Json.text.injEq] at hdocuments
  exact hdocuments.2.1.2

/-- Saves into one directory within a second. -/
def Save.Shares (s : FileStore) (c d : Save) : Prop :=
  c.now / 1000000 = d.now / 1000000 ∧
    s.locate (FilePath.ofString c.directory) = s.locate (FilePath.ofString d.directory)

instance (s : FileStore) (c d : Save) : Decidable (c.Shares s d) := instDecidableAnd

/-- The last of a save and later ones that shares its archive. -/
def lastSharing (s : FileStore) (c : Save) : List Save → Save
  | [] => c
  | d :: later => lastSharing s (if c.Shares s d then d else c) later

theorem Save.Shares.refl (s : FileStore) (c : Save) : c.Shares s c := ⟨rfl, rfl⟩

theorem Save.Shares.trans {s : FileStore} {c d e : Save} (h : c.Shares s d) (h' : d.Shares s e) : c.Shares s e :=
  ⟨h.1.trans h'.1, h.2.trans h'.2⟩

theorem shares_lastSharing (s : FileStore) (c : Save) (later : List Save) : c.Shares s (lastSharing s c later) := by
  induction later generalizing c with
  | nil => exact .refl s c
  | cons d later ih =>
    rw [lastSharing]
    by_cases h : c.Shares s d
    · rw [if_pos h]
      exact h.trans (ih d)
    · rw [if_neg h]
      exact ih c

theorem lastSharing_eq_self {s : FileStore} {c : Save} {later : List Save} (h : ∀ d ∈ later, ¬ c.Shares s d) :
    lastSharing s c later = c := by
  induction later with
  | nil => rfl
  | cons d later ih =>
    rw [lastSharing, if_neg (h d List.mem_cons_self)]
    exact ih fun e he => h e (List.mem_cons_of_mem d he)

/-- The document of a save is in its archive, in the directory that the save was given. -/
structure InArchive (s : FileStore) (l : Location) (c : Save) : Prop where
  locate : s.locate (FilePath.ofString c.directory) = .ok l
  isDirectory : s.get? l = some .directory
  holds : ∃ payload, archivePayload c.now c.result = .ok payload ∧
    s.get? (l ++ [archiveName c.now]) = some (.file (documentBytes payload))

/-- A save puts its own document into the archive that it shares with an earlier one, and leaves every other archive as
    it is. -/
theorem InArchive.of_persist {s s' s'' : FileStore} {l : Location} {c d : Save} {notice : Log.Record}
    (h : InArchive s l c) (save : persist s d.now d.directory d.result = (s', .ok (d.path, notice)))
    (hkeeps : s'.KeepsDirectories s'') : InArchive s' l (if c.Shares s'' d then d else c) := by
  obtain ⟨payload, m, hpayload, -, change⟩ := exists_of_persist save
  have hearlier : s'.locate (FilePath.ofString c.directory) = .ok l := locate_of_keeps change.keepsDirectories h.locate
  have hplace : s''.locate (FilePath.ofString c.directory) = .ok l := locate_of_keeps hkeeps hearlier
  have hplace' : s''.locate (FilePath.ofString d.directory) = .ok m := locate_of_keeps hkeeps change.locate
  -- an archive is shared where the second and the place are the same
  by_cases hshares : c.Shares s'' d
  · rw [if_pos hshares]
    obtain rfl := Except.ok.inj (hplace.symm.trans (hshares.2.trans hplace'))
    exact ⟨change.locate, change.isDirectory, payload, hpayload, change.archive⟩
  · rw [if_neg hshares]
    obtain ⟨own, hown, hfile⟩ := h.holds
    refine ⟨hearlier, change.keepsDirectories l h.isDirectory, own, hown, ?_⟩
    apply change.elsewhere _ _ ?_ ?_ hfile
    · exact archivePlace_ne_latestPlace l m c.now
    · intro heq
      obtain ⟨rfl, hseconds⟩ := archivePlace_inj heq
      exact hshares ⟨hseconds, hplace.trans hplace'.symm⟩

namespace History

variable {s s' : FileStore} {before after : List Save} {c : Save}

theorem keepsDirectories (h : History s after s') : s.KeepsDirectories s' := by
  induction h with
  | nil s => exact fun _ hl => hl
  | cons save rest ih =>
    obtain ⟨_, _, _, _, change⟩ := exists_of_persist save
    exact fun m hm => ih m (change.keepsDirectories m hm)

theorem inArchive {l : Location} (h : History s after s') (hin : InArchive s l c) :
    InArchive s' l (lastSharing s' c after) := by
  induction h generalizing c with
  | nil s => exact hin
  | cons save rest ih => exact ih (hin.of_persist save rest.keepsDirectories)

theorem drop (h : History s (before ++ c :: after) s') : ∃ between, History between (c :: after) s' := by
  induction before generalizing s with
  | nil => exact ⟨s, h⟩
  | cons d before ih =>
    cases h with
    | cons save rest => exact ih rest

theorem holds_lastSharing (h : History s (c :: after) s') : s'.Holds c.path (lastSharing s' c after) := by
  cases h with
  | cons save rest =>
    obtain ⟨payload, l, hpayload, hpath, change⟩ := exists_of_persist save
    have hin := rest.inArchive ⟨change.locate, change.isDirectory, payload, hpayload, change.archive⟩
    obtain ⟨kept, hkept, hfile⟩ := hin.holds
    -- the save that is left shares the archive, and so the path that was told leads to its document
    have hshares := shares_lastSharing s' c after
    rw [← archiveName_eq_iff.mpr hshares.1] at hfile
    have hplace := locate_child (archiveName_ne_parent c.now) (hshares.2.trans hin.locate) hin.isDirectory
    rw [← hpath] at hplace
    exact ⟨kept, hkept, readFile?_of_locate hplace hfile⟩

/-- **What the archives hold in the end.** At the path that a save told is the document of the last save of that second
    into that directory; so it is its own document, if no later save was made into the directory within the second. -/
theorem archive_holds (h : History s (before ++ c :: after) s') :
    s'.Holds c.path (lastSharing s' c after) ∧ ((∀ d ∈ after, ¬ c.Shares s' d) → s'.Holds c.path c) := by
  obtain ⟨between, hfrom⟩ := h.drop
  have hlast := hfrom.holds_lastSharing
  constructor
  · exact hlast
  · intro hlater
    rwa [lastSharing_eq_self hlater] at hlast

end History

/-! ## Two saves within a second -/

/-- A session of one run without items that took so many microseconds. -/
def singleRun (label : String) (micros : Int) : SessionResult :=
  { label, itemCount := 0, runCount := 1, samples := [micros], min := micros, max := micros, average := micros }

/-- A result saved into `results`. -/
def savedRun (now : Int) (r : SessionResult) : Save :=
  ⟨now, "results", r, (FilePath.ofString "results").child (archiveName now)⟩

/-- A save that succeeds tells the archive of its second. -/
theorem exists_notice {s : FileStore} {now : Int} {r : SessionResult} (h : (persist s now "results" r).2.isOk) :
    ∃ notice, persist s now "results" r = ((persist s now "results" r).1, .ok ((savedRun now r).path, notice)) := by
  obtain ⟨saved, hsaved⟩ := exists_ok_of_isOk h
  obtain ⟨_, _, _, hpath, _⟩ := exists_of_persist (Prod.ext rfl hsaved)
  refine ⟨saved.2, Prod.ext rfl ?_⟩
  rw [hsaved]
  exact congrArg Except.ok (Prod.ext hpath rfl)

/-- Two saves into `results`, eight tenths of a second apart. -/
def firstOfSecond : Save := savedRun 1700000000100000 (singleRun "first" 1)

def secondOfSecond : Save := savedRun 1700000000900000 (singleRun "second" 2)

/-- What is there after the first one, and after both. -/
def afterFirst : FileStore := (persist .empty 1700000000100000 "results" (singleRun "first" 1)).1

def afterBoth : FileStore := (persist afterFirst 1700000000900000 "results" (singleRun "second" 2)).1

theorem history_both : History .empty [firstOfSecond, secondOfSecond] afterBoth := by
  obtain ⟨notice, hfirst⟩ := @exists_notice .empty 1700000000100000 (singleRun "first" 1) (by decide +kernel)
  obtain ⟨notice', hsecond⟩ := @exists_notice afterFirst 1700000000900000 (singleRun "second" 2) (by decide +kernel)
  exact .cons hfirst (.cons hsecond (.nil _))

/-- The archive of the second of two saves within a second. -/
theorem History.archive_holds_both :
    History .empty [firstOfSecond, secondOfSecond] afterBoth ∧
      afterBoth.Holds firstOfSecond.path (lastSharing afterBoth firstOfSecond [secondOfSecond]) ∧
        afterBoth.Holds secondOfSecond.path secondOfSecond := by
  refine ⟨history_both, ?_, ?_⟩
  · exact (@History.archive_holds .empty afterBoth [] [secondOfSecond] firstOfSecond history_both).1
  · apply (@History.archive_holds .empty afterBoth [firstOfSecond] [] secondOfSecond history_both).2
    intro d hd
    cases hd

theorem isoTimestamp_firstOfSecond_ne :
    (Civil.ofMicros firstOfSecond.now).isoTimestamp ≠ (Civil.ofMicros secondOfSecond.now).isoTimestamp := by
  decide +kernel

/-- **An archive is lost**: after both saves the path that the first one told holds the second result. -/
theorem archive_lost :
    History .empty [firstOfSecond, secondOfSecond] afterBoth ∧ ¬ afterBoth.Holds firstOfSecond.path firstOfSecond := by
  refine ⟨history_both, ?_⟩
  intro hown
  have hdirectory : firstOfSecond.directory = secondOfSecond.directory := rfl
  have hshares : firstOfSecond.Shares afterBoth secondOfSecond := ⟨by decide, by rw [hdirectory]⟩
  have hlast := history_both.holds_lastSharing
  rw [lastSharing, if_pos hshares] at hlast
  exact isoTimestamp_firstOfSecond_ne (hown.isoTimestamp_eq hlast)

end RenderBench
