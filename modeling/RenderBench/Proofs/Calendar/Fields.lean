import Mathlib.Data.List.Lex
import RenderBench.Proofs.Calendar.Days

/-!
# `Proofs.Calendar.Fields` — written instants are read back, and keep their order

A stamp is a row of numbers, each of a fixed width and with a fixed mark before it. Such a text is read back to its
numbers, and texts of one layout are ordered as their numbers are. The numbers of an instant are those of its civil date
and its time of day; they give its second back, and later seconds have later numbers.

## Contents
- `StampLayout`, `StampLayout.write`, `StampLayout.read?`: rows of numbers, written and read.
- `StampLayout.read?_write`, `StampLayout.write_lt`: what is written is read back; the order of texts.
- `Civil.numbers`, `readSecond?`: the numbers of a second.
- `readSecond?_numbers`, `numbers_lt`: seconds read back, and their order.
- `readTimestamp?_isoTimestamp`: an instant read back to the microsecond.
-/

namespace RenderBench

/-! ## Numbers of fixed width -/

/-- A number of so many digits at the front of a text. -/
def takeNumber? (width : Nat) (cs : List Char) : Option (Nat × List Char) :=
  if (cs.take width).length = width ∧ (cs.take width).all Char.isDigit then
    some (natOfDigits (cs.take width), cs.drop width)
  else none

theorem takeNumber?_paddedDecimal {width n : Nat} (hwidth : 0 < width) (h : n < 10 ^ width) (rest : List Char) :
    takeNumber? width (paddedDecimal width n ++ rest) = some (n, rest) := by
  have hlength := length_paddedDecimal hwidth h
  have hdigits : (paddedDecimal width n).all Char.isDigit = true :=
    List.all_eq_true.mpr (allDigits_paddedDecimal width n)
  rw [takeNumber?, List.take_left' hlength, List.drop_left' hlength, natOfDigits_paddedDecimal]
  exact if_pos ⟨hlength, hdigits⟩

theorem natOfDigits_cons {c : Char} (h : c.isDigit = true) (cs : List Char) :
    natOfDigits (c :: cs) = (c.toNat - '0'.toNat) * 10 ^ cs.length + natOfDigits cs := by
  have hdigit : natOfDigits [c] = c.toNat - '0'.toNat := by
    simp only [natOfDigits, List.foldl_cons, List.foldl_nil, digitValue?_of_isDigit h, Option.getD_some, Nat.mul_zero,
      Nat.zero_add]
  have hsplit := natOfDigits_append [c] cs
  rwa [hdigit] at hsplit

theorem natOfDigits_lt {cs : List Char} (h : AllDigits cs) : natOfDigits cs < 10 ^ cs.length := by
  induction cs with
  | nil => decide
  | cons c cs ih =>
    have hrest := ih h.tail
    have hvalue : c.toNat - '0'.toNat ≤ 9 := by
      have hdigit := h.head
      simp only [Char.isDigit, Bool.and_eq_true, decide_eq_true_eq] at hdigit
      have hnine : c.toNat ≤ '0'.toNat + 9 := hdigit.2
      omega
    have hle := Nat.mul_le_mul_right (10 ^ cs.length) hvalue
    rw [natOfDigits_cons h.head, List.length_cons, pow_succ]
    omega

/-- Of texts that begin with as many digits, the one whose digits stand for the lesser number is before the other. -/
theorem append_lt_of_natOfDigits_lt {cs ds : List Char} (hcs : AllDigits cs) (hds : AllDigits ds)
    (hlength : cs.length = ds.length) (h : natOfDigits cs < natOfDigits ds) (as bs : List Char) :
    cs ++ as < ds ++ bs := by
  induction cs generalizing ds with
  | nil =>
    rw [List.eq_nil_of_length_eq_zero hlength.symm] at h
    exact absurd h (lt_irrefl _)
  | cons c cs ih =>
    cases ds with
    | nil => cases hlength
    | cons d ds =>
      have hrest : cs.length = ds.length := Nat.succ.inj hlength
      rw [natOfDigits_cons hcs.head, natOfDigits_cons hds.head, hrest] at h
      have hlt := natOfDigits_lt hds.tail
      rw [List.cons_append, List.cons_append, List.cons_lt_cons_iff]
      rcases Nat.lt_trichotomy c.toNat d.toNat with hless | heq | hgreater
      · exact .inl (Char.lt_def.mpr hless)
      · rw [heq] at h
        exact .inr ⟨Char.toNat_inj.mp heq, ih hcs.tail hds.tail hrest (Nat.lt_of_add_lt_add_left h)⟩
      · -- a greater digit in front outweighs all that come after it
        have hzero : '0'.toNat ≤ d.toNat := by
          have hdigit := hds.head
          simp only [Char.isDigit, Bool.and_eq_true, decide_eq_true_eq] at hdigit
          exact hdigit.1
        have hfront : d.toNat - '0'.toNat + 1 ≤ c.toNat - '0'.toNat := by omega
        have hweight := Nat.mul_le_mul_right (10 ^ ds.length) hfront
        rw [Nat.succ_mul] at hweight
        omega

theorem paddedDecimal_append_lt {width n m : Nat} (hwidth : 0 < width) (h : n < m) (hm : m < 10 ^ width)
    (as bs : List Char) : paddedDecimal width n ++ as < paddedDecimal width m ++ bs := by
  have hlength : (paddedDecimal width n).length = (paddedDecimal width m).length := by
    rw [length_paddedDecimal hwidth (h.trans hm), length_paddedDecimal hwidth hm]
  refine append_lt_of_natOfDigits_lt (allDigits_paddedDecimal _ _) (allDigits_paddedDecimal _ _) hlength ?_ as bs
  rwa [natOfDigits_paddedDecimal, natOfDigits_paddedDecimal]

/-! ## Layouts -/

/-- The numbers of a text, each with the mark before it and its width. -/
abbrev StampLayout := List (List Char × Nat)

namespace StampLayout

def write : StampLayout → List Nat → List Char
  | (mark, width) :: layout, n :: ns => mark ++ (paddedDecimal width n ++ write layout ns)
  | _, _ => []

/-- The numbers at the front of a text, and what comes after them. -/
def read? : StampLayout → List Char → Option (List Nat × List Char)
  | [], cs => some ([], cs)
  | (mark, width) :: layout, cs => do
    let cs ← cs.dropPrefix? mark
    let (n, cs) ← takeNumber? width cs
    let (ns, cs) ← read? layout cs
    return (n :: ns, cs)

/-- What is written is digits and marks. -/
theorem mem_write {layout : StampLayout} {ns : List Nat} {c : Char} (h : c ∈ layout.write ns) :
    c.isDigit = true ∨ ∃ field ∈ layout, c ∈ field.1 := by
  induction layout generalizing ns with
  | nil => cases h
  | cons field layout ih =>
    cases ns with
    | nil => cases h
    | cons n ns =>
      rcases List.mem_append.mp h with hmark | h
      · exact .inr ⟨field, List.mem_cons_self, hmark⟩
      · rcases List.mem_append.mp h with hdigit | h
        · exact .inl (allDigits_paddedDecimal _ _ c hdigit)
        · rcases ih h with hdigit | ⟨field', hfield', hc⟩
          · exact .inl hdigit
          · exact .inr ⟨field', List.mem_cons_of_mem _ hfield', hc⟩

/-- Numbers that are not too long for their widths. -/
def Fits (layout : StampLayout) (ns : List Nat) : Prop :=
  List.Forall₂ (fun (field : List Char × Nat) n => 0 < field.2 ∧ n < 10 ^ field.2) layout ns

variable {layout : StampLayout} {ns ms : List Nat}

/-- **What is written is read back.** -/
theorem read?_write (h : layout.Fits ns) (rest : List Char) :
    layout.read? (layout.write ns ++ rest) = some (ns, rest) := by
  induction h with
  | nil => rfl
  | @cons field n layout ns hfield _ ih =>
    obtain ⟨mark, width⟩ := field
    have hmark (cs : List Char) : (mark ++ cs).dropPrefix? mark = some cs :=
      List.dropPrefix?_eq_some_iff.mpr ⟨mark, rfl, BEq.refl _⟩
    simp only [write, read?, List.append_assoc, hmark, takeNumber?_paddedDecimal hfield.1 hfield.2, ih, bind,
      Option.bind, pure]

/-- **Texts of one layout are ordered as their numbers are.** -/
theorem write_lt (hn : layout.Fits ns) (hm : layout.Fits ms) (h : ns < ms) (as bs : List Char) :
    layout.write ns ++ as < layout.write ms ++ bs := by
  induction hn generalizing ms with
  | nil =>
    cases hm
    exact absurd h (lt_irrefl _)
  | @cons field n layout ns hfield _ ih =>
    cases hm with
    | @cons _ m _ ms hfield' hrest' =>
      simp only [write, List.append_assoc]
      refine List.append_left_lt ?_
      rcases List.cons_lt_cons_iff.mp h with hlt | ⟨rfl, hlt⟩
      · exact paddedDecimal_append_lt hfield.1 hlt hfield'.2 _ _
      · exact List.append_left_lt (ih hrest' hlt)

end StampLayout

/-! ## Seconds -/

/-- The numbers of an instant, down to the second. -/
def Civil.numbers (c : Civil) : List Nat := [c.year.toNat, c.month, c.day, c.hour, c.minute, c.second]

instance (year month day : Nat) : Decidable (Dated year month day) :=
  decidable_of_iff (1 ≤ month ∧ month ≤ 12 ∧ 1 ≤ day ∧ day ≤ monthLength year month)
    ⟨fun ⟨hpos, hle, hday, hlast⟩ => ⟨hpos, hle, hday, hlast⟩, fun h => ⟨h.1, h.2, h.3, h.4⟩⟩

/-- The second, since the start of 1970, of a date of the calendar and a time of day. -/
def readSecond? : List Nat → Option Int
  | [year, month, day, hour, minute, second] =>
    if Dated year month day ∧ hour < 24 ∧ minute < 60 ∧ second < 60 then
      some (86400 * dayNumber year month day + (3600 * hour + 60 * minute + second : Nat))
    else none
  | _ => none

/-- What the numbers of an instant from 1970 on say. -/
theorem numbers_ofMicros {t : Int} (h : 0 ≤ t) :
    ∃ year month day : Nat, (Civil.ofMicros t).year = year ∧ Dated year month day ∧
      dayNumber year month day = t / 1000000 / 86400 ∧
      (Civil.ofMicros t).numbers =
        [year, month, day, inDayOf t / 3600, inDayOf t / 60 % 60, inDayOf t % 60] := by
  have hdays : 0 ≤ t / 1000000 / 86400 := by omega
  obtain ⟨year, hyear, hdated, hnumber⟩ := civilDate_dated hdays
  refine ⟨year, (civilDate (t / 1000000 / 86400)).2.1, (civilDate (t / 1000000 / 86400)).2.2, ?_, hdated, hnumber, ?_⟩
  · rw [Civil.ofMicros_eq, hyear]
  · rw [Civil.ofMicros_eq, Civil.numbers, hyear, Int.toNat_natCast]

/-- **The second of an instant is read from its numbers.** -/
theorem readSecond?_numbers {t : Int} (h : 0 ≤ t) : readSecond? (Civil.ofMicros t).numbers = some (t / 1000000) := by
  obtain ⟨year, month, day, -, hdated, hnumber, hnumbers⟩ := numbers_ofMicros h
  have hinDay := inDayOf_lt t
  have hsecond : (inDayOf t : Int) = t / 1000000 % 86400 := by
    unfold inDayOf
    omega
  have htotal : 86400 * (t / 1000000 / 86400) +
      ((3600 * (inDayOf t / 3600) + 60 * (inDayOf t / 60 % 60) + inDayOf t % 60 : Nat) : Int) = t / 1000000 := by omega
  rw [hnumbers, readSecond?, if_pos ⟨hdated, by omega, by omega, by omega⟩, hnumber, htotal]

/-- **Later seconds have later numbers.** -/
theorem numbers_lt {t u : Int} (ht : 0 ≤ t) (h : t / 1000000 < u / 1000000) :
    (Civil.ofMicros t).numbers < (Civil.ofMicros u).numbers := by
  obtain ⟨year, month, day, -, hdated, hnumber, hnumbers⟩ := numbers_ofMicros ht
  obtain ⟨year', month', day', -, hdated', hnumber', hnumbers'⟩ := numbers_ofMicros (t := u) (by omega)
  have hnil : ¬ ([] : List Nat) < [] := lt_irrefl _
  rw [hnumbers, hnumbers']
  simp only [List.cons_lt_cons_iff, hnil, and_false, or_false]
  by_cases hday : t / 1000000 / 86400 = u / 1000000 / 86400
  · -- within a day the time of day decides
    have hinDay : inDayOf t < inDayOf u := by
      unfold inDayOf
      omega
    have hdate : ¬ DateBefore year month day year' month' day' ∧ ¬ DateBefore year' month' day' year month day := by
      have heq : dayNumber year month day = dayNumber year' month' day' := by rw [hnumber, hnumber', hday]
      exact ⟨fun hbefore => absurd (dayNumber_lt hdated hdated' hbefore) (by omega),
        fun hafter => absurd (dayNumber_lt hdated' hdated hafter) (by omega)⟩
    unfold DateBefore at hdate
    omega
  · have hbefore : DateBefore year month day year' month' day' :=
      dateBefore_of_lt hdated hdated' (by omega)
    unfold DateBefore at hbefore
    omega

/-- The first microsecond of the year 10000. -/
def endOfYears : Int := 253402300800000000

theorem year_lt {t : Int} (h : 0 ≤ t) (hend : t < endOfYears) : (Civil.ofMicros t).year.toNat < 10000 := by
  obtain ⟨year, month, day, hyear, hdated, hnumber, -⟩ := numbers_ofMicros h
  rw [hyear, Int.toNat_natCast]
  by_contra hle
  have hyears := daysToYear_mono (not_lt.mp hle)
  have hlast : daysToYear 10000 = 3652425 := daysToYear_eq 9999
  have hpos := hdated.day_pos
  unfold endOfYears at hend
  rw [dayNumber, daysToYear_1970] at hnumber
  omega

/-! ## Stamps -/

/-- The layout of an archive's stamp. -/
def archiveLayout : StampLayout := [([], 4), ([], 2), ([], 2), (['T'], 2), ([], 2), ([], 2)]

/-- The layout of a timestamp, down to the second. -/
def timestampLayout : StampLayout := [([], 4), (['-'], 2), (['-'], 2), (['T'], 2), ([':'], 2), ([':'], 2)]

theorem fits_numbers {t : Int} (h : 0 ≤ t) (hend : t < endOfYears) :
    archiveLayout.Fits (Civil.ofMicros t).numbers ∧ timestampLayout.Fits (Civil.ofMicros t).numbers := by
  have hyear := year_lt h hend
  obtain ⟨hmonth, hday, hhour, hminute, hsecond⟩ := Civil.twoDigits_ofMicros t
  constructor <;>
    exact .cons ⟨by decide, hyear⟩ (.cons ⟨by decide, hmonth⟩ (.cons ⟨by decide, hday⟩
      (.cons ⟨by decide, hhour⟩ (.cons ⟨by decide, hminute⟩ (.cons ⟨by decide, hsecond⟩ .nil)))))

theorem yearDigits_of_nonneg {y : Int} (h : 0 ≤ y) : yearDigits y = paddedDecimal 4 y.toNat := by
  have habs : y.natAbs = y.toNat := by omega
  rw [yearDigits, if_neg (not_lt.mpr h), habs]

theorem toList_archiveStamp {c : Civil} (h : 0 ≤ c.year) :
    c.archiveStamp.toList = archiveLayout.write c.numbers ++ ['Z'] := by
  simp only [Civil.archiveStamp, String.toList_ofList, yearDigits_of_nonneg h, archiveLayout, Civil.numbers,
    StampLayout.write, List.append_assoc, List.nil_append, List.cons_append, List.append_nil]

/-- The fraction of a timestamp. -/
def Civil.fractionChars (c : Civil) : List Char :=
  if c.microsecond = 0 then [] else '.' :: paddedDecimal 6 c.microsecond

theorem toList_isoTimestamp {c : Civil} (h : 0 ≤ c.year) :
    c.isoTimestamp.toList = timestampLayout.write c.numbers ++ (c.fractionChars ++ "+00:00".toList) := by
  simp only [Civil.isoTimestamp, Civil.dateChars, Civil.timeChars, Civil.fractionChars, String.toList_ofList,
    yearDigits_of_nonneg h, timestampLayout, Civil.numbers, StampLayout.write, List.append_assoc, List.nil_append,
    List.cons_append, List.append_nil]

/-- The microseconds after the point of a timestamp, or none of them. -/
def readFraction? : List Char → Option (Nat × List Char)
  | '.' :: cs => takeNumber? 6 cs
  | cs => some (0, cs)

/-- The instant of a timestamp of universal time, in microseconds since the start of 1970. -/
def readTimestamp? (stamp : String) : Option Int := do
  let (numbers, cs) ← timestampLayout.read? stamp.toList
  let second ← readSecond? numbers
  let (micros, cs) ← readFraction? cs
  if cs = "+00:00".toList then some (1000000 * second + micros) else none

theorem readFraction?_fractionChars (t : Int) :
    readFraction? ((Civil.ofMicros t).fractionChars ++ "+00:00".toList) =
      some ((t % 1000000).toNat, "+00:00".toList) := by
  have hlt : (t % 1000000).toNat < 10 ^ 6 := by omega
  show readFraction? ((if (t % 1000000).toNat = 0 then [] else '.' :: paddedDecimal 6 (t % 1000000).toNat) ++ _) = _
  split
  · next hzero =>
    rw [hzero]
    rfl
  · exact takeNumber?_paddedDecimal (by decide) hlt _

/-- **A timestamp is read back to the microsecond.** -/
theorem readTimestamp?_isoTimestamp {t : Int} (h : 0 ≤ t) (hend : t < endOfYears) :
    readTimestamp? (Civil.ofMicros t).isoTimestamp = some t := by
  obtain ⟨year, -, -, hyear, -⟩ := numbers_ofMicros h
  have hmicros : 1000000 * (t / 1000000) + ((t % 1000000).toNat : Int) = t := by omega
  rw [readTimestamp?, toList_isoTimestamp (hyear ▸ Int.natCast_nonneg year),
    StampLayout.read?_write (fits_numbers h hend).2, Option.bind_eq_bind, Option.bind_some]
  dsimp only
  rw [readSecond?_numbers h, Option.bind_eq_bind, Option.bind_some, readFraction?_fractionChars, Option.bind_eq_bind,
    Option.bind_some]
  dsimp only
  rw [if_pos rfl, hmicros]

/-- A timestamp has a point only where it has a fraction. -/
theorem point_mem_isoTimestamp {t : Int} (h : 0 ≤ t) :
    '.' ∈ (Civil.ofMicros t).isoTimestamp.toList ↔ t % 1000000 ≠ 0 := by
  obtain ⟨year, -, -, hyear, -⟩ := numbers_ofMicros h
  -- the numbers are digits and marks, and no mark is a point
  have hnumbers : '.' ∉ timestampLayout.write (Civil.ofMicros t).numbers := by
    intro hmem
    rcases StampLayout.mem_write hmem with hdigit | hmark
    · exact absurd hdigit (by decide)
    · exact absurd hmark (by decide)
  have hmicros : (Civil.ofMicros t).microsecond = (t % 1000000).toNat := rfl
  rw [toList_isoTimestamp (hyear ▸ Int.natCast_nonneg year), List.mem_append, List.mem_append, Civil.fractionChars,
    hmicros]
  by_cases hzero : t % 1000000 = 0
  · rw [hzero]
    simp [hnumbers]
  · have hfraction : (t % 1000000).toNat ≠ 0 := by omega
    simp [hfraction, hzero]

end RenderBench
