import RenderBench.Proofs.FileStore.Archives
import RenderBench.Proofs.Json.Sorting

/-!
# `Proofs.FileStore.Latest` — the latest result of every directory

Results are saved again and again, into several directories and with failures in between. A save that succeeds leaves
the same document under both names and touches no other file. What stands as the latest result of a directory is
what the last save left that got as far as opening it: the document of the last one that succeeded, unless a later one
failed for the reason that a directory has the name of its archive, which leaves its own document, or that its result
has an integer of too many digits, which leaves a part of it. Every other failure leaves all files as they are.

## Contents
- `SaveCall`, `FileStore.afterCalls`: saves in a row, whether they succeed or not.
- `SaveCall.IsDocument`: what is read from the document of a save; `SaveCall.IsCut`: a part of the document.
- `SaveCall.Lands`: saves that write the latest result of a directory.
- `SaveCall.written_of_put`, `SaveCall.written_of_complete`, `run_cases`: what one save does.
- `HoldsLatest.afterCalls`: saves in a row that leave a latest result alone.
- `latest_holds`: what the two files of a save hold, and what the latest result is in the end.
- `latest_not_of_last_success`: a failed save that is found as the latest result.
-/

namespace RenderBench

open FileStore

/-- A result that is to be saved, with the time and the directory. -/
structure SaveCall where
  now : Int
  directory : String
  result : SessionResult

namespace SaveCall

def path (c : SaveCall) : FilePath := FilePath.ofString c.directory

def archive (c : SaveCall) : FilePath := c.path.child (archiveName c.now)

def run (c : SaveCall) (s : FileStore) : FileStore × Except PersistError (FilePath × Log.Record) :=
  persist s c.now c.directory c.result

/-- A save that opens the latest result of the directory at a location. It succeeds, or it fails because a directory has
    the name of its archive, or because of an integer of too many digits. -/
structure Lands (c : SaveCall) (s : FileStore) (l : Location) : Prop where
  locate : (c.run s).1.locate c.path = .ok l
  written : ∀ e, (c.run s).2 = .error e → e = archiveTaken c.path c.now ∨ e = .digits

/-- The bytes are a document of the result and the time of a save and of nothing else, in which all names are in
    order. -/
def IsDocument (c : SaveCall) (bytes : List UInt8) : Prop :=
  ∃ cs result document, decodeUtf8 bytes = .ok cs ∧ c.result.toJson true = .ok result ∧
    Json.read? (String.ofList cs) =
      some (.object [("result", document), ("timestamp", .text (Civil.ofMicros c.now).isoTimestamp)]) ∧
    Json.Same result document ∧
    (Json.object [("result", document), ("timestamp", .text (Civil.ofMicros c.now).isoTimestamp)]).Ordered

/-- The bytes are a proper part, from the start, of the document of a save, in which an integer has too many digits. -/
def IsCut (c : SaveCall) (bytes : List UInt8) : Prop :=
  ∃ payload rest, archivePayload c.now c.result = .ok payload ∧ ¬ payload.AllShort ∧ rest ≠ [] ∧
    documentBytes payload = bytes ++ rest

/-- What a save that opens a latest result leaves there: its document or, if an integer has too many digits, a part of
    it. -/
def Leaves (c : SaveCall) (s : FileStore) (bytes : List UInt8) : Prop :=
  (c.run s).2 ≠ .error .digits ∧ c.IsDocument bytes ∨ (c.run s).2 = .error .digits ∧ c.IsCut bytes

end SaveCall

/-- What a row of saves leaves, whether they succeed or not. -/
def FileStore.afterCalls (s : FileStore) (calls : List SaveCall) : FileStore := calls.foldl (fun s c => (c.run s).1) s

variable {s : FileStore} {c : SaveCall} {l : Location} {bytes : List UInt8}

/-! ## The document -/

theorem SaveCall.isDocument_documentBytes {payload : Json} (h : archivePayload c.now c.result = .ok payload) :
    c.IsDocument (documentBytes payload) := by
  obtain ⟨cs, hdecode, hread⟩ := read?_documentBytes payload
  obtain ⟨result, hresult, hsorted⟩ := sorted_archivePayload h
  have hordered : result.sorted.Ordered := Json.ordered_sorted result (namesDistinct_toJson hresult)
  refine ⟨cs, result, result.sorted, hdecode, hresult, hsorted ▸ hread, Json.same_sorted result, ?_, hordered, trivial,
    trivial⟩
  have hnames : "result" < "timestamp" := by decide
  exact List.pairwise_pair.mpr hnames

theorem encodeUtf8_ne_nil {cs : List Char} (h : cs ≠ []) : encodeUtf8 cs ≠ [] := by
  intro hnone
  have hdecode := decodeUtf8_encodeUtf8 cs
  rw [hnone] at hdecode
  exact h (Except.ok.inj hdecode).symm

theorem SaveCall.isCut_of_cut? {payload : Json} {text : List Char} (h : archivePayload c.now c.result = .ok payload)
    (hcut : payload.sorted.cut? 0 = some text) : c.IsCut (encodeUtf8 text) := by
  obtain ⟨rest, hrest, hchars⟩ := Json.exists_rest_of_cut? hcut
  refine ⟨payload, encodeUtf8 rest, h, ?_, encodeUtf8_ne_nil hrest, ?_⟩
  · intro hshort
    rw [(Json.cut?_eq_none_iff _).mpr (Json.allShort_sorted hshort)] at hcut
    cases hcut
  · rw [documentBytes_eq, hchars, encodeUtf8, List.flatMap_append]
    rfl

/-- Documents of two saves are told apart by the time. -/
theorem SaveCall.IsDocument.isoTimestamp_eq {d : SaveCall} (hc : c.IsDocument bytes) (hd : d.IsDocument bytes) :
    (Civil.ofMicros c.now).isoTimestamp = (Civil.ofMicros d.now).isoTimestamp := by
  obtain ⟨cs, _, _, hdecode, _, hread, -⟩ := hc
  obtain ⟨cs', _, _, hdecode', _, hread', -⟩ := hd
  obtain rfl := Except.ok.inj (hdecode.symm.trans hdecode')
  have hdocuments := Option.some.inj (hread.symm.trans hread')
  simp only [Json.object.injEq, List.cons.injEq, Prod.mk.injEq, Json.text.injEq] at hdocuments
  exact hdocuments.2.1.2

/-! ## One save -/

/-- A directory that is there, with a latest result. -/
structure HoldsLatest (s : FileStore) (l : Location) (bytes : List UInt8) : Prop where
  isDirectory : s.get? l = some .directory
  latest : s.get? (l ++ [latestName]) = some (.file bytes)

theorem HoldsLatest.readFile? {p : FilePath} (h : HoldsLatest s l bytes) (hlocate : s.locate p = .ok l) :
    s.readFile? (p.child latestName) = some bytes :=
  readFile?_of_locate (locate_child (by decide) hlocate h.isDirectory) h.latest

/-- What a save leaves that opens the latest result of the directory at a location: what it wrote there and, if it
    succeeds, the same in the archive that it tells, and every other file as it was. -/
structure SaveCall.Written (c : SaveCall) (s : FileStore) (l : Location) (bytes : List UInt8) : Prop where
  lands : c.Lands s l
  leaves : c.Leaves s bytes
  keepsDirectories : s.KeepsDirectories (c.run s).1
  holds : HoldsLatest (c.run s).1 l bytes
  archive : ∀ path notice, (c.run s).2 = .ok (path, notice) →
    path = c.archive ∧ (c.run s).1.get? (l ++ [archiveName c.now]) = some (.file bytes)
  elsewhere : ∀ m content, m ≠ l ++ [latestName] → m ≠ l ++ [archiveName c.now] →
    ((c.run s).1.get? m = some (.file content) ↔ s.get? m = some (.file content))

theorem SaveCall.Written.isDocument (h : c.Written s l bytes) (hshort : (c.run s).2 ≠ .error .digits) :
    c.IsDocument bytes := by
  rcases h.leaves with ⟨-, hdocument⟩ | ⟨hlong, -⟩
  · exact hdocument
  · exact absurd hlong hshort

variable {made : FileStore} {payload : Json}

/-- A save that stops at the latest result or at its archive has written the latest result and nothing else. -/
theorem SaveCall.written_of_put (opened : SaveOpened s c.now c.path c.result made l payload) {e : PersistError}
    (he : e = archiveTaken c.path c.now ∨ e = .digits)
    (hrun : c.run s = (made.put (l ++ [latestName]) (.file bytes), .error e)) (hleaves : c.Leaves s bytes) :
    c.Written s l bytes := by
  have hput := keepsDirectories_put opened.free (.file bytes)
  have hstore : (c.run s).1 = _ := congrArg Prod.fst hrun
  have hanswer : (c.run s).2 = _ := congrArg Prod.snd hrun
  dsimp only at hstore hanswer
  constructor
  case leaves => exact hleaves
  case lands =>
    refine ⟨?_, fun e' he' => ?_⟩
    · rw [hstore]
      exact locate_of_keeps hput opened.locate
    · rwa [← Except.error.inj (hanswer.symm.trans he')]
  case keepsDirectories =>
    rw [hstore]
    exact fun m hm => hput m (opened.added.keepsEntries m _ hm)
  case holds =>
    rw [hstore]
    exact ⟨hput l opened.isDirectory, get?_put_self (List.append_ne_nil_of_right_ne_nil _ (List.cons_ne_nil _ _)) _⟩
  case archive =>
    intro path notice hsaved
    cases hanswer.symm.trans hsaved
  case elsewhere =>
    intro m content hm _
    rw [hstore, get?_put_of_ne hm]
    exact opened.added.get?_file_iff

/-- A save that succeeds has written both files. -/
theorem SaveCall.written_of_complete (opened : SaveOpened s c.now c.path c.result made l payload)
    (untaken : made.get? (l ++ [archiveName c.now]) ≠ some .directory) {notice : Log.Record}
    (hrun : c.run s = ((made.put (l ++ [latestName]) (.file (documentBytes payload))).put (l ++ [archiveName c.now])
      (.file (documentBytes payload)), .ok (c.archive, notice))) :
    c.Written s l (documentBytes payload) := by
  have hchange : SaveChange s c.now c.path l (documentBytes payload) _ :=
    saveChange_put opened.added.keepsEntries opened.locate opened.isDirectory opened.free untaken
  have hstore : (c.run s).1 = _ := congrArg Prod.fst hrun
  have hanswer : (c.run s).2 = _ := congrArg Prod.snd hrun
  dsimp only at hstore hanswer
  rw [← hstore] at hchange
  constructor
  case leaves =>
    refine .inl ⟨?_, c.isDocument_documentBytes opened.payload_eq⟩
    rw [hanswer]
    nofun
  case lands =>
    refine ⟨hchange.locate, fun e he => ?_⟩
    cases hanswer.symm.trans he
  case keepsDirectories => exact hchange.keepsDirectories
  case holds => exact ⟨hchange.isDirectory, hchange.latest⟩
  case archive =>
    intro path notice hsaved
    exact ⟨(congrArg Prod.fst (Except.ok.inj (hanswer.symm.trans hsaved))).symm, hchange.archive⟩
  case elsewhere =>
    intro m content hm hm'
    rw [hstore, get?_put_of_ne hm', get?_put_of_ne hm]
    exact opened.added.get?_file_iff

/-- **Every save** writes no file, or writes the latest result of a directory. -/
theorem run_cases (c : SaveCall) (s : FileStore) :
    (s.AddsDirectories (c.run s).1 ∧ ∃ e, (c.run s).2 = .error e ∧ e ≠ archiveTaken c.path c.now ∧ e ≠ .digits) ∨
      ∃ l bytes, c.Written s l bytes := by
  have hend : SaveEnd s c.now c.path c.result (c.run s) := saveEnd_persist s c.now c.directory c.result
  generalize hrun : c.run s = answer at hend ⊢
  cases hend with
  | refused added reason => exact .inl ⟨added, _, rfl, reason⟩
  | cut opened cut =>
    have hleaves : c.Leaves s _ := .inr ⟨congrArg Prod.snd hrun, c.isCut_of_cut? opened.payload_eq cut⟩
    exact .inr ⟨_, _, SaveCall.written_of_put opened (.inr rfl) hrun hleaves⟩
  | halfway opened taken =>
    have hanswer : (c.run s).2 ≠ .error .digits := by
      rw [hrun]
      nofun
    have hleaves : c.Leaves s _ := .inl ⟨hanswer, c.isDocument_documentBytes opened.payload_eq⟩
    exact .inr ⟨_, _, SaveCall.written_of_put opened (.inl rfl) hrun hleaves⟩
  | complete opened untaken => exact .inr ⟨_, _, SaveCall.written_of_complete opened untaken hrun⟩

theorem SaveCall.Lands.exists_written (h : c.Lands s l) : ∃ bytes, c.Written s l bytes := by
  rcases run_cases c s with ⟨-, e, he, hne, hne'⟩ | ⟨m, bytes, hwritten⟩
  · rcases h.written e he with rfl | rfl
    · exact absurd rfl hne
    · exact absurd rfl hne'
  · obtain rfl := Except.ok.inj (h.locate.symm.trans hwritten.lands.locate)
    exact ⟨bytes, hwritten⟩

/-- A save that does not write a latest result leaves it as it is. -/
theorem HoldsLatest.run (h : HoldsLatest s l bytes) (hnot : ¬ c.Lands s l) : HoldsLatest (c.run s).1 l bytes := by
  rcases run_cases c s with ⟨added, -⟩ | ⟨m, written, hwritten⟩
  · exact ⟨added.keepsEntries _ _ h.isDirectory, added.keepsEntries _ _ h.latest⟩
  · -- another directory is written into, and its two files are none of this one
    have hne : l ++ [latestName] ≠ m ++ [latestName] := by
      intro heq
      obtain rfl := (append_name_inj heq).1
      exact hnot hwritten.lands
    have hne' := (archivePlace_ne_latestPlace m l c.now).symm
    exact ⟨hwritten.keepsDirectories l h.isDirectory, (hwritten.elsewhere _ bytes hne hne').mpr h.latest⟩

/-! ## Saves in a row -/

/-- Saves none of which writes a latest result leave it as it is. -/
theorem HoldsLatest.afterCalls {calls : List SaveCall} (h : HoldsLatest s l bytes)
    (hnot : ∀ earlier d later, calls = earlier ++ d :: later → ¬ d.Lands (s.afterCalls earlier) l) :
    HoldsLatest (s.afterCalls calls) l bytes := by
  induction calls generalizing s with
  | nil => exact h
  | cons d calls ih =>
    have hd : ¬ d.Lands s l := hnot [] d calls rfl
    refine ih (h.run hd) ?_
    rintro earlier d' later rfl
    exact hnot (d :: earlier) d' later rfl

theorem afterCalls_append (s : FileStore) (calls calls' : List SaveCall) :
    s.afterCalls (calls ++ calls') = (s.afterCalls calls).afterCalls calls' := List.foldl_append

/-- **The latest result of every directory.** After any row of saves, some of which may fail: a save that succeeds
    leaves one document, its own, under both names, and every other file as it was. The latest result of a directory is
    in the end what the last save left that opened it, however the directory is spelled; that is the document of the last
    one that succeeded, unless a later one found a directory with the name of its archive, or an integer of too many
    digits. Every other failure changes no file. -/
theorem latest_holds (s : FileStore) (before : List SaveCall) (c : SaveCall) (after : List SaveCall) :
    let found := s.afterCalls before
    let left := s.afterCalls (before ++ [c])
    let final := s.afterCalls (before ++ c :: after)
    (∀ path notice, (c.run found).2 = .ok (path, notice) →
      ∃ l bytes, c.Lands found l ∧ c.IsDocument bytes ∧ path = c.archive ∧
        left.readFile? (c.path.child latestName) = some bytes ∧ left.readFile? path = some bytes ∧
          ∀ m content, m ≠ l ++ [latestName] → m ≠ l ++ [archiveName c.now] →
            (left.get? m = some (.file content) ↔ found.get? m = some (.file content))) ∧
    (∀ l, c.Lands found l →
      (∀ earlier d later, after = earlier ++ d :: later → ¬ d.Lands (s.afterCalls (before ++ c :: earlier)) l) →
        ∃ bytes, c.Leaves found bytes ∧
          ∀ p, final.locate p = .ok l → final.readFile? (p.child latestName) = some bytes) ∧
    ∀ e, (c.run found).2 = .error e → e ≠ archiveTaken c.path c.now → e ≠ .digits →
      ∀ m content, left.get? m = some (.file content) ↔ found.get? m = some (.file content) := by
  intro found left final
  have hleft : left = (c.run found).1 := afterCalls_append s before [c]
  have hfinal (calls : List SaveCall) : s.afterCalls (before ++ c :: calls) = left.afterCalls calls := by
    rw [List.append_cons, afterCalls_append]
  refine ⟨?_, ?_, ?_⟩
  · intro path notice hsaved
    rcases run_cases c found with ⟨-, e, he, -⟩ | ⟨l, bytes, hwritten⟩
    · rw [hsaved] at he
      cases he
    · obtain ⟨hpath, harchive⟩ := hwritten.archive path notice hsaved
      have hlatest := hwritten.holds.readFile? hwritten.lands.locate
      have hplace := locate_child (archiveName_ne_parent c.now) hwritten.lands.locate hwritten.holds.isDirectory
      have hdocument : c.IsDocument bytes := by
        refine hwritten.isDocument ?_
        rw [hsaved]
        nofun
      refine ⟨l, bytes, hwritten.lands, hdocument, hpath, ?_, ?_, ?_⟩
      · rw [hleft]
        exact hlatest
      · rw [hleft, hpath]
        exact readFile?_of_locate hplace harchive
      · rw [hleft]
        exact hwritten.elsewhere
  · intro l hlands hlater
    obtain ⟨bytes, hwritten⟩ := hlands.exists_written
    refine ⟨bytes, hwritten.leaves, fun p hp => ?_⟩
    have hholds : HoldsLatest left l bytes := hleft ▸ hwritten.holds
    have hend : HoldsLatest (left.afterCalls after) l bytes := by
      apply hholds.afterCalls
      intro earlier d later heq
      rw [← hfinal]
      exact hlater earlier d later heq
    rw [← hfinal] at hend
    exact hend.readFile? hp
  · intro e he hne hne' m content
    rcases run_cases c found with ⟨added, -⟩ | ⟨l, bytes, hwritten⟩
    · rw [hleft]
      exact added.get?_file_iff
    · rcases hwritten.lands.written e he with htaken | hlong
      · exact absurd htaken hne
      · exact absurd hlong hne'

/-! ## Saves into `results`, and aside -/

instance decidableErrors {ε α : Type} (x : Except ε α) (P : ε → Prop) [DecidablePred P] :
    Decidable (∀ e, x = .error e → P e) :=
  match x with
  | .ok _ => .isTrue nofun
  | .error e => decidable_of_iff (P e) ⟨fun h _ he => Except.error.inj he ▸ h, fun h => h e rfl⟩

/-- Three saves, a second apart. The second one makes a directory that has the name of the archive of the third. -/
def savedFirst : SaveCall := ⟨1700000000000000, "results", singleRun "first" 1⟩

def savedAside : SaveCall := ⟨1700000001000000, "./results/run-20231114T221322Z.json", singleRun "aside" 2⟩

def savedLast : SaveCall := ⟨1700000002000000, "results/", singleRun "last" 3⟩

def resultsLocation : Location := ["work", "results"]

theorem lands_savedFirst : savedFirst.Lands .empty resultsLocation := by
  constructor
  · decide +kernel
  · decide +kernel

theorem lands_savedLast : savedLast.Lands (FileStore.empty.afterCalls [savedFirst, savedAside]) resultsLocation := by
  constructor
  · decide +kernel
  · decide +kernel

theorem not_lands_savedAside : ¬ savedAside.Lands (FileStore.empty.afterCalls [savedFirst]) resultsLocation := by
  intro h
  have helsewhere : (savedAside.run (FileStore.empty.afterCalls [savedFirst])).1.locate savedAside.path ≠
      .ok resultsLocation := by decide +kernel
  exact helsewhere h.locate

/-- The latest result of `results` after a save into it and one into a directory below it, in another spelling. -/
theorem latest_holds_spelled :
    (∃ path notice, (savedFirst.run .empty).2 = .ok (path, notice) ∧
      path.text = "results/run-20231114T221320Z.json" ∧
        ∃ bytes, savedFirst.IsDocument bytes ∧
          (FileStore.empty.afterCalls [savedFirst]).readFile? path = some bytes) ∧
    ∃ bytes, savedFirst.IsDocument bytes ∧
      (FileStore.empty.afterCalls [savedFirst, savedAside]).readFile? (FilePath.ofString "./results//latest.json") =
        some bytes := by
  constructor
  · have hok : (savedFirst.run .empty).2.isOk := by decide +kernel
    obtain ⟨⟨path, notice⟩, hsaved⟩ := exists_ok_of_isOk hok
    obtain ⟨_, bytes, -, hdocument, hpath, -, hread, -⟩ :=
      (latest_holds .empty [] savedFirst [savedAside]).1 path notice hsaved
    refine ⟨path, notice, hsaved, ?_, bytes, hdocument, hread⟩
    rw [hpath]
    decide +kernel
  · have hlater : ∀ earlier d later, [savedAside] = earlier ++ d :: later →
        ¬ d.Lands (FileStore.empty.afterCalls ([] ++ savedFirst :: earlier)) resultsLocation := by
      rintro (_ | ⟨d, earlier⟩) d' later h
      · obtain ⟨rfl, -⟩ := List.cons.inj h
        exact not_lands_savedAside
      · cases earlier with
        | nil => cases h
        | cons d earlier => cases h
    obtain ⟨bytes, hleaves, hread⟩ :=
      (latest_holds .empty [] savedFirst [savedAside]).2.1 resultsLocation lands_savedFirst hlater
    have hwhole : (savedFirst.run .empty).2 ≠ .error .digits := ne_error_of_map (by decide +kernel)
    rcases hleaves with ⟨-, hdocument⟩ | ⟨hlong, -⟩
    · exact ⟨bytes, hdocument, hread (FilePath.ofString "results/") (by decide +kernel)⟩
    · exact absurd hlong hwhole

/-- **A failed save is found**: after the three saves, of which the first is the last that succeeded into `results`, the
    latest result there is not the one of the first. -/
theorem latest_not_of_last_success :
    (savedFirst.run .empty).2.isOk ∧ (savedAside.run (FileStore.empty.afterCalls [savedFirst])).2.isOk ∧
      ¬ (savedLast.run (FileStore.empty.afterCalls [savedFirst, savedAside])).2.isOk ∧
        ∃ bytes, (FileStore.empty.afterCalls [savedFirst, savedAside, savedLast]).readFile?
            (FilePath.ofString "results/latest.json") = some bytes ∧ ¬ savedFirst.IsDocument bytes := by
  refine ⟨by decide +kernel, by decide +kernel, by decide +kernel, ?_⟩
  obtain ⟨bytes, hwritten⟩ := lands_savedLast.exists_written
  refine ⟨bytes, hwritten.holds.readFile? hwritten.lands.locate, ?_⟩
  intro hfirst
  have hwhole : (savedLast.run (FileStore.empty.afterCalls [savedFirst, savedAside])).2 ≠ .error .digits :=
    ne_error_of_map (by decide +kernel)
  have hlast := hwritten.isDocument hwhole
  have htimes : (Civil.ofMicros savedFirst.now).isoTimestamp ≠ (Civil.ofMicros savedLast.now).isoTimestamp := by
    decide +kernel
  exact htimes (hfirst.isoTimestamp_eq hlast)

end RenderBench
