import Mathlib.Data.String.Basic
import RenderBench.Proofs.Calendar.Fields
import RenderBench.Proofs.FileStore.Archives

/-!
# `Proofs.FileStore.Naming` — archives tell time by their names and by what they hold

From the start of 1970 to the end of the year 9999 a year is written in four digits, so that the names of archives have
one layout. Listed by name they are in the order of time, and each name gives its second back. The document in an
archive holds the instant of the save to the microsecond, and the two agree.

## Contents
- `readArchiveName?`: the second that a name tells.
- `archiveName_lt`: the order of names.
- `TellsInstant`: documents with a timestamp; `tellsInstant_archivePayload`.
- `archives_tell_time`: names and documents together.
-/

namespace RenderBench

variable {t u : Int}

/-! ## Names -/

/-- The second, since the start of 1970, that the name of an archive tells. -/
def readArchiveName? (name : String) : Option Int := do
  let cs ← name.toList.dropPrefix? "run-".toList
  let (numbers, cs) ← archiveLayout.read? cs
  if cs = "Z.json".toList then readSecond? numbers else none

theorem toList_archiveName (h : 0 ≤ t) :
    (archiveName t).toList =
      "run-".toList ++ (archiveLayout.write (Civil.ofMicros t).numbers ++ "Z.json".toList) := by
  obtain ⟨year, -, -, hyear, -⟩ := numbers_ofMicros h
  rw [archiveName, String.toList_append, String.toList_append, toList_archiveStamp (hyear ▸ Int.natCast_nonneg year),
    List.append_assoc, List.append_assoc]
  rfl

/-- **A name gives its second back.** -/
theorem readArchiveName?_archiveName (h : 0 ≤ t) (hend : t < endOfYears) :
    readArchiveName? (archiveName t) = some (t / 1000000) := by
  have hmark (cs : List Char) : ("run-".toList ++ cs).dropPrefix? "run-".toList = some cs :=
    List.dropPrefix?_eq_some_iff.mpr ⟨_, rfl, BEq.refl _⟩
  rw [readArchiveName?, toList_archiveName h, hmark, Option.bind_eq_bind, Option.bind_some,
    StampLayout.read?_write (fits_numbers h hend).1, Option.bind_eq_bind, Option.bind_some]
  dsimp only
  rw [if_pos rfl, readSecond?_numbers h]

/-- **An earlier second has an earlier name.** -/
theorem archiveName_lt (ht : 0 ≤ t) (h : t / 1000000 < u / 1000000) (hu : u < endOfYears) :
    archiveName t < archiveName u := by
  have hu' : 0 ≤ u := by omega
  have htend : t < endOfYears := by omega
  rw [String.lt_iff_toList_lt, toList_archiveName ht, toList_archiveName hu']
  exact List.append_left_lt
    (StampLayout.write_lt (fits_numbers ht htend).1 (fits_numbers hu' hu).1 (numbers_lt ht h) _ _)

/-! ## Documents -/

/-- What is read from the bytes of a saved document is a result with an instant, which has a fraction only where it does
    not fall on a second. -/
def TellsInstant (payload : Json) (t : Int) : Prop :=
  ∃ cs result stamp, decodeUtf8 (documentBytes payload) = .ok cs ∧
    Json.read? (String.ofList cs) = some (.object [("result", result), ("timestamp", .text stamp)]) ∧
    readTimestamp? stamp = some t ∧ ('.' ∈ stamp.toList ↔ t % 1000000 ≠ 0)

theorem tellsInstant_archivePayload {r : SessionResult} {payload : Json} (h : 0 ≤ t) (hend : t < endOfYears)
    (hpayload : archivePayload t r = .ok payload) : TellsInstant payload t := by
  obtain ⟨cs, hdecode, hread⟩ := read?_documentBytes payload
  obtain ⟨result, -, hsorted⟩ := sorted_archivePayload hpayload
  exact ⟨cs, result.sorted, _, hdecode, hsorted ▸ hread, readTimestamp?_isoTimestamp h hend, point_mem_isoTimestamp h⟩

/-- **Archives tell time.** Of two instants from 1970 to the end of the year 9999, the earlier one has the earlier name,
    and the names are the same only within a second. The document of an instant holds it to the microsecond, with a
    fraction only where there is one, and the name of its archive tells the second of it. -/
theorem archives_tell_time {t u : Int} (ht : 0 ≤ t) (h : t ≤ u) (hu : u < endOfYears) :
    archiveName t ≤ archiveName u ∧
      (archiveName t = archiveName u ↔ t / 1000000 = u / 1000000) ∧
        readArchiveName? (archiveName t) = some (t / 1000000) ∧
          ∀ (r : SessionResult) (payload : Json), archivePayload t r = .ok payload → TellsInstant payload t := by
  have htend : t < endOfYears := by omega
  refine ⟨?_, archiveName_eq_iff, readArchiveName?_archiveName ht htend, fun r payload hpayload =>
    tellsInstant_archivePayload ht htend hpayload⟩
  rcases Int.lt_or_eq_of_le (Int.ediv_le_ediv (by decide : (0 : Int) < 1000000) h) with hlt | heq
  · exact (archiveName_lt ht hlt hu).le
  · exact (archiveName_eq_iff.mpr heq).le

/-- The last microsecond of a leap day that closes a century of years, and the first of the day after. -/
theorem archives_tell_time_leapDay :
    archiveName 951868799999999 ≤ archiveName 951868800000000 ∧
      archiveName 951868799999999 ≠ archiveName 951868800000000 ∧
        readArchiveName? (archiveName 951868799999999) = some 951868799 ∧
          ∃ payload, archivePayload 951868799999999 (singleRun "a" 1) = .ok payload ∧
            TellsInstant payload 951868799999999 := by
  obtain ⟨horder, hsame, hname, hdocument⟩ :=
    archives_tell_time (t := 951868799999999) (u := 951868800000000) (by decide) (by decide) (by decide)
  obtain ⟨payload, hpayload⟩ :=
    exists_ok_of_isOk (show (archivePayload 951868799999999 (singleRun "a" 1)).isOk = true by decide +kernel)
  exact ⟨horder, fun h => absurd (hsame.mp h) (by decide), hname, payload, hpayload, hdocument _ _ hpayload⟩

end RenderBench
