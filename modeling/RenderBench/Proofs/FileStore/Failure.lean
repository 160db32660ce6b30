import RenderBench.Proofs.FileStore.Latest

/-!
# `Proofs.FileStore.Failure` — what a failed save leaves

A save fails before it writes anything, or when it has opened the latest result. In the first case there may be new
directories, and that is all. In the second case nothing is taken back: where a directory stands in the place of the
archive, the latest result has been written, and where an integer has too many digits, it has been emptied and written
up to there.

## Contents
- `SaveCall.Overwritten`: a save that has replaced the latest result and nothing else.
- `persist_failure`: what a failed save leaves.
- `latest_lost`: a latest result that a failed save replaces.
-/

namespace RenderBench

open FileStore

variable {s s' : FileStore} {c : SaveCall}

/-- What a save leaves that stopped after it had opened the latest result: other bytes there, and every other file as it
    was. -/
structure SaveCall.Overwritten (c : SaveCall) (s s' : FileStore) (l : Location) (bytes : List UInt8) : Prop where
  locate : s'.locate c.path = .ok l
  latest : s'.get? (l ++ [latestName]) = some (.file bytes)
  elsewhere : ∀ m content, m ≠ l ++ [latestName] →
    (s'.get? m = some (.file content) ↔ s.get? m = some (.file content))

theorem SaveCall.overwritten_put {made : FileStore} {l : Location} {payload : Json}
    (opened : SaveOpened s c.now c.path c.result made l payload) (bytes : List UInt8) :
    c.Overwritten s (made.put (l ++ [latestName]) (.file bytes)) l bytes := by
  have hput := keepsDirectories_put opened.free (.file bytes)
  have hlatest : l ++ [latestName] ≠ [] := List.append_ne_nil_of_right_ne_nil _ (List.cons_ne_nil _ _)
  refine ⟨locate_of_keeps hput opened.locate, get?_put_self hlatest _, fun m content hm => ?_⟩
  rw [get?_put_of_ne hm]
  exact opened.added.get?_file_iff

theorem SaveOpened.keepsDirectories_put {now : Int} {directory : FilePath} {r : SessionResult} {made : FileStore}
    {l : Location} {payload : Json} (opened : SaveOpened s now directory r made l payload) (bytes : List UInt8) :
    s.KeepsDirectories (made.put (l ++ [latestName]) (.file bytes)) := by
  intro m hm
  exact FileStore.keepsDirectories_put opened.free (.file bytes) m (opened.added.keepsEntries m _ hm)

/-- **A failed save** takes no directory away. Unless a directory stands in the place of its archive or an integer of its
    document has too many digits, every file is there as it was, and there is no new one. In the first of these two cases
    the latest result of the directory is the document of this save, in the second a proper part of it from the start, and
    every other file is as it was. -/
theorem persist_failure (s s' : FileStore) (c : SaveCall) (e : PersistError) (h : c.run s = (s', .error e)) :
    s.KeepsDirectories s' ∧
      (e ≠ archiveTaken c.path c.now → e ≠ .digits →
        ∀ m content, s'.get? m = some (.file content) ↔ s.get? m = some (.file content)) ∧
      (e = archiveTaken c.path c.now → ∃ l bytes, c.Overwritten s s' l bytes ∧ c.IsDocument bytes ∧
        s'.get? (l ++ [archiveName c.now]) = some .directory) ∧
      (e = .digits → ∃ l bytes, c.Overwritten s s' l bytes ∧ c.IsCut bytes) := by
  have hend : SaveEnd s c.now c.path c.result (c.run s) := saveEnd_persist s c.now c.directory c.result
  rw [h] at hend
  cases hend with
  | refused added reason =>
    exact ⟨added.keepsEntries.keepsDirectories, fun _ _ m content => added.get?_file_iff,
      fun he => absurd he reason.1, fun he => absurd he reason.2⟩
  | @cut made l payload text opened cut =>
    refine ⟨opened.keepsDirectories_put _, fun _ he => absurd rfl he,
      fun he => absurd he.symm (archiveTaken_ne_digits _ _), fun _ => ?_⟩
    exact ⟨l, _, SaveCall.overwritten_put opened _, SaveCall.isCut_of_cut? opened.payload_eq cut⟩
  | @halfway made l payload opened taken =>
    refine ⟨opened.keepsDirectories_put _, fun he => absurd rfl he, fun _ => ?_,
      fun he => absurd he (archiveTaken_ne_digits _ _)⟩
    exact ⟨l, _, SaveCall.overwritten_put opened _, SaveCall.isDocument_documentBytes opened.payload_eq,
      FileStore.keepsDirectories_put opened.free _ _ taken⟩

/-- A latest result, and a directory in the place of an archive. -/
def archiveTakenStore : FileStore :=
  (FileStore.empty.place "results/latest.json" (.file [0x6f, 0x6c, 0x64])).place
    "results/run-20231114T221320Z.json" .directory

/-- A save without samples. -/
def savedNothing : SaveCall := ⟨1700000000000000, "other", { singleRun "nothing" 1 with samples := [] }⟩

/-- A save with a sample of one digit too many. -/
def savedLong : SaveCall := ⟨1700000000000000, "results", singleRun "long" (10 ^ 4300)⟩

theorem exists_run_of_failure {e : PersistError} (h : ((c.run s).2.map fun _ => ()) = .error e) :
    ∃ s', c.run s = (s', .error e) := by
  cases hanswer : (c.run s).2 with
  | ok saved => rw [hanswer] at h; cases h
  | error e' =>
    rw [hanswer] at h
    obtain rfl := Except.error.inj h
    exact ⟨(c.run s).1, Prod.ext rfl hanswer⟩

theorem savedFirst_taken :
    ((savedFirst.run archiveTakenStore).2.map fun _ => ()) =
      .error (archiveTaken savedFirst.path savedFirst.now) := by decide +kernel

/-- A save that stops between its two files, one that stops before them, and one that stops in the first. -/
theorem persist_failure_each :
    (∃ s', savedFirst.run archiveTakenStore = (s', .error (archiveTaken savedFirst.path savedFirst.now)) ∧
      ∃ l bytes, savedFirst.Overwritten archiveTakenStore s' l bytes ∧ savedFirst.IsDocument bytes) ∧
    (∃ s' e, savedNothing.run archiveTakenStore = (s', .error e) ∧ e ≠ archiveTaken savedNothing.path savedNothing.now ∧
      e ≠ .digits ∧
      ∀ m content, s'.get? m = some (.file content) ↔ archiveTakenStore.get? m = some (.file content)) ∧
    ∃ s', savedLong.run archiveTakenStore = (s', .error .digits) ∧
      ∃ l bytes, savedLong.Overwritten archiveTakenStore s' l bytes ∧ savedLong.IsCut bytes := by
  refine ⟨?_, ?_, ?_⟩
  · obtain ⟨s', hrun⟩ := exists_run_of_failure savedFirst_taken
    obtain ⟨l, bytes, hoverwritten, hdocument, -⟩ :=
      (persist_failure archiveTakenStore s' savedFirst _ hrun).2.2.1 rfl
    exact ⟨s', hrun, l, bytes, hoverwritten, hdocument⟩
  · have hfails : ((savedNothing.run archiveTakenStore).2.map fun _ => ()) = .error (.spread .noData) := by
      decide +kernel
    obtain ⟨s', hrun⟩ := exists_run_of_failure hfails
    have hreason : PersistError.spread .noData ≠ archiveTaken savedNothing.path savedNothing.now := nofun
    have hreason' : PersistError.spread .noData ≠ .digits := nofun
    exact ⟨s', _, hrun, hreason, hreason',
      (persist_failure archiveTakenStore s' savedNothing _ hrun).2.1 hreason hreason'⟩
  · have hfails : ((savedLong.run archiveTakenStore).2.map fun _ => ()) = .error .digits := by decide +kernel
    obtain ⟨s', hrun⟩ := exists_run_of_failure hfails
    exact ⟨s', hrun, (persist_failure archiveTakenStore s' savedLong _ hrun).2.2.2 rfl⟩

/-- What stands as a latest result before any save is no document. -/
theorem not_isDocument_old (c : SaveCall) : ¬ c.IsDocument [0x6f, 0x6c, 0x64] := by
  rintro ⟨cs, _, _, hdecode, -, hread, -⟩
  have hold : decodeUtf8 [0x6f, 0x6c, 0x64] = .ok ['o', 'l', 'd'] := by decide +kernel
  obtain rfl := Except.ok.inj (hold.symm.trans hdecode)
  have hnone : Json.read? (String.ofList ['o', 'l', 'd']) = none := by decide +kernel
  rw [hnone] at hread
  cases hread

/-- **A failed save is found**: the latest result that was there before is replaced. -/
theorem latest_lost :
    ∃ s' e, savedFirst.run archiveTakenStore = (s', .error e) ∧
      archiveTakenStore.readFile? (FilePath.ofString "results/latest.json") = some [0x6f, 0x6c, 0x64] ∧
        s'.readFile? (FilePath.ofString "results/latest.json") ≠ some [0x6f, 0x6c, 0x64] := by
  obtain ⟨s', hrun⟩ := exists_run_of_failure savedFirst_taken
  refine ⟨s', _, hrun, by decide +kernel, ?_⟩
  have hwhole : (savedFirst.run archiveTakenStore).2 ≠ .error .digits := by
    rw [hrun]
    nofun
  rcases run_cases savedFirst archiveTakenStore with ⟨-, e, he, hne, -⟩ | ⟨l, bytes, hwritten⟩
  · rw [hrun] at he
    exact absurd (Except.error.inj he).symm hne
  · -- the latest result is the document of the save, which the text that stood there is not
    have hread := hwritten.holds.readFile? hwritten.lands.locate
    have hpath : FilePath.ofString "results/latest.json" = savedFirst.path.child latestName := by decide +kernel
    rw [hrun] at hread
    rw [hpath, hread]
    intro hold
    have hdocument := hwritten.isDocument hwhole
    rw [Option.some.inj hold] at hdocument
    exact not_isDocument_old savedFirst hdocument

end RenderBench
