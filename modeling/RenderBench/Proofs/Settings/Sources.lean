import Mathlib.Data.List.Nodup
import RenderBench.Proofs.Lookup
import RenderBench.Settings.Basic

/-!
# `Proofs.Settings.Sources` — the source that counts

A setting has its value from the first source that has one under its name: the arguments, by either name; the
environment; the file; or no source. What other settings have in the sources is not looked at.

## Contents
- `SettingName.isArgument`, `SettingName.isSpelling`: the names that matter to a setting.
- `Sources.Wins`: the value that counts.
- `Sources.Unambiguous`, `Sources.Distinct`: sources in which a setting is named once.
- `find?_of_wins`, `Sources.exists_wins`: exactly one value counts, the one that is found.
- `Sources.about`, `find?_about`: what a setting depends on.
-/

namespace RenderBench

namespace SettingName

/-- The names that an argument for a setting may have. -/
def isArgument (n : SettingName) (k : String) : Bool := k == n.alias_ || k == n.field

/-- The names that a variable or an entry for a setting may have, in any letter case. -/
def isSpelling (n : SettingName) (k : String) : Bool := lower k == lower n.alias_ || lower k == lower n.field

end SettingName

namespace Sources

/-- The variables of the environment, as texts that may be missing. -/
def environmentTexts (s : Sources) : List (String × Option String) := s.environment.map fun (k, v) => (k, some v)

def fileTexts (s : Sources) : List (String × Option String) := s.file.map fun e => (e.name, e.value)

/-- The value that counts for a setting, with the name it came under; none if the default does. Variables and entries are
    named in any letter case, and an entry without a value does not count. -/
inductive Wins (s : Sources) (n : SettingName) : Option (String × Datum) → Prop
  | argument {k : String} {d : Datum} (hmem : (k, d) ∈ s.arguments) (hname : n.isArgument k = true) :
    Wins s n (some (k, d))
  | environment {k v : String} (harguments : ∀ a ∈ s.arguments, n.isArgument a.1 = false)
    (hmem : (k, some v) ∈ s.environmentTexts) (hname : lower k = lower n.alias_) : Wins s n (some (n.alias_, .text v))
  | file {k v : String} (harguments : ∀ a ∈ s.arguments, n.isArgument a.1 = false)
    (hvariables : ∀ a ∈ s.environmentTexts, lower a.1 ≠ lower n.alias_)
    (hmem : (k, some v) ∈ s.fileTexts) (hname : lower k = lower n.alias_) : Wins s n (some (n.alias_, .text v))
  | default (harguments : ∀ a ∈ s.arguments, n.isArgument a.1 = false)
    (hvariables : ∀ a ∈ s.environmentTexts, lower a.1 ≠ lower n.alias_)
    (hentries : ∀ a ∈ s.fileTexts, lower a.1 = lower n.alias_ → a.2 = none) : Wins s n none

/-- Texts in which a setting has one spelling at most, and goes by its alias. -/
structure NamedOnce (texts : List (String × Option String)) (n : SettingName) : Prop where
  spelling : ∀ a ∈ texts, ∀ b ∈ texts, lower a.1 = lower n.alias_ → lower b.1 = lower n.alias_ → a.1 = b.1
  aliased : ∀ a ∈ texts, n.isSpelling a.1 = true → lower a.1 = lower n.alias_

instance (texts : List (String × Option String)) (n : SettingName) : Decidable (NamedOnce texts n) :=
  decidable_of_iff
    ((∀ a ∈ texts, ∀ b ∈ texts, lower a.1 = lower n.alias_ → lower b.1 = lower n.alias_ → a.1 = b.1) ∧
      ∀ a ∈ texts, n.isSpelling a.1 = true → lower a.1 = lower n.alias_)
    ⟨fun h => ⟨h.1, h.2⟩, fun h => ⟨h.spelling, h.aliased⟩⟩

/-- A setting is given by one argument at most, and has one spelling at most in the environment and in the file. -/
structure Unambiguous (s : Sources) (n : SettingName) : Prop where
  arguments : ∀ a ∈ s.arguments, ∀ b ∈ s.arguments, n.isArgument a.1 = true → n.isArgument b.1 = true → a = b
  environment : NamedOnce s.environmentTexts n
  file : NamedOnce s.fileTexts n

/-- A spelling is there once in the environment and once in the file. -/
structure Distinct (s : Sources) : Prop where
  environment : (s.environmentTexts.map Prod.fst).Nodup
  file : (s.fileTexts.map Prod.fst).Nodup

variable {s : Sources} {n : SettingName} {w : Option (String × Datum)}

/-! ## The value that is found -/

theorem isArgument_alias (n : SettingName) : n.isArgument n.alias_ = true := by
  rw [SettingName.isArgument, beq_self_eq_true, Bool.true_or]

theorem isArgument_field (n : SettingName) : n.isArgument n.field = true := by
  rw [SettingName.isArgument, beq_self_eq_true, Bool.or_true]

theorem isSpelling_alias {k : String} (h : lower k = lower n.alias_) : n.isSpelling k = true := by
  rw [SettingName.isSpelling, h, beq_self_eq_true, Bool.true_or]

theorem isSpelling_field {k : String} (h : lower k = lower n.field) : n.isSpelling k = true := by
  rw [SettingName.isSpelling, h, beq_self_eq_true, Bool.or_true]

theorem findCaseless_eq (entries : List (String × Option String)) (name : String) :
    findCaseless entries name =
      ((entries.reverse.find? fun a => lower a.1 == lower name).map Prod.snd).getD none := rfl

/-- A name is looked for in any letter case, and what it has is what is found. -/
theorem findCaseless_cases (entries : List (String × Option String)) (name : String) :
    (∃ a ∈ entries, lower a.1 = lower name ∧ findCaseless entries name = a.2) ∨
      (∀ a ∈ entries, lower a.1 ≠ lower name) ∧ findCaseless entries name = none := by
  rw [findCaseless_eq]
  cases hfind : entries.reverse.find? fun a => lower a.1 == lower name with
  | none =>
    refine .inr ⟨fun a ha hname => ?_, rfl⟩
    exact List.find?_eq_none.mp hfind a (List.mem_reverse.mpr ha) (beq_iff_eq.mpr hname)
  | some a =>
    have hname := List.find?_some hfind
    exact .inl ⟨a, List.mem_reverse.mp (List.mem_of_find?_eq_some hfind), beq_iff_eq.mp hname, rfl⟩

section

variable {texts : List (String × Option String)}

theorem findIn_eq_none (h : NamedOnce texts n) (hnone : ∀ a ∈ texts, lower a.1 = lower n.alias_ → a.2 = none) :
    findIn texts n = none := by
  have hmissing {name : String} (hname : ∀ a ∈ texts, lower a.1 = lower name → lower a.1 = lower n.alias_) :
      findCaseless texts name = none := by
    rcases findCaseless_cases texts name with ⟨a, ha, halias, hvalue⟩ | ⟨-, hvalue⟩
    · rw [hvalue, hnone a ha (hname a ha halias)]
    · exact hvalue
  have halias := hmissing fun a _ halias => halias
  -- the name of the field is no other spelling
  have hfield := hmissing fun a ha hfield => h.aliased a ha (isSpelling_field hfield)
  rw [findIn, halias, hfield]
  rfl

/-- The text that is there is the one that is found. -/
theorem findIn_of_mem (h : NamedOnce texts n) (hdistinct : (texts.map Prod.fst).Nodup) {k v : String}
    (hmem : (k, some v) ∈ texts) (hname : lower k = lower n.alias_) : findIn texts n = some (n.alias_, v) := by
  rcases findCaseless_cases texts n.alias_ with ⟨a, ha, halias, hfound⟩ | ⟨hnot, -⟩
  · obtain rfl := List.inj_on_of_nodup_map hdistinct ha hmem (h.spelling a ha _ hmem halias hname)
    rw [findIn, hfound]
  · exact absurd hname (hnot (k, some v) hmem)

end

/-- The argument for a setting, if there is one. -/
def argument? (s : Sources) (n : SettingName) : Option (String × Datum) :=
  match s.arguments.reverse.lookup n.alias_ with
  | some d => some (n.alias_, d)
  | none => (s.arguments.reverse.lookup n.field).map fun d => (n.field, d)

/-- The text for a setting, if there is one. -/
def text? (s : Sources) (n : SettingName) : Option (String × String) :=
  let found := [s.environmentTexts, s.fileTexts].filterMap fun texts => findIn texts n
  (found.find? fun (k, _) => k == n.alias_).or found.head?

theorem find?_eq (s : Sources) (n : SettingName) :
    s.find? n = (s.argument? n).or ((s.text? n).map fun (k, v) => (k, .text v)) := by
  rw [find?, argument?]
  cases s.arguments.reverse.lookup n.alias_ with
  | some d => rfl
  | none =>
    cases s.arguments.reverse.lookup n.field with
    | some d => rfl
    | none => rfl

theorem text?_of_variable {v : String} (h : findIn s.environmentTexts n = some (n.alias_, v)) :
    s.text? n = some (n.alias_, v) := by
  simp only [text?, List.filterMap_cons, h, List.find?_cons, beq_self_eq_true, Option.some_or]

theorem text?_of_entry {v : String} (hvariables : findIn s.environmentTexts n = none)
    (h : findIn s.fileTexts n = some (n.alias_, v)) : s.text? n = some (n.alias_, v) := by
  simp only [text?, List.filterMap_cons, hvariables, h, List.find?_cons, beq_self_eq_true, Option.some_or]

theorem text?_eq_none (hvariables : findIn s.environmentTexts n = none) (hentries : findIn s.fileTexts n = none) :
    s.text? n = none := by
  simp only [text?, List.filterMap_cons, hvariables, hentries]
  rfl

theorem argument?_cases (s : Sources) (n : SettingName) :
    (∃ a ∈ s.arguments, n.isArgument a.1 = true ∧ s.argument? n = some a) ∨
      (∀ a ∈ s.arguments, n.isArgument a.1 = false) ∧ s.argument? n = none := by
  unfold argument?
  cases halias : s.arguments.reverse.lookup n.alias_ with
  | some d =>
    exact .inl ⟨(n.alias_, d), List.mem_reverse.mp (mem_of_lookup halias), isArgument_alias n, rfl⟩
  | none =>
    dsimp only
    cases hfield : s.arguments.reverse.lookup n.field with
    | some d =>
      exact .inl ⟨(n.field, d), List.mem_reverse.mp (mem_of_lookup hfield), isArgument_field n, rfl⟩
    | none =>
      -- neither spelling is among the arguments
      refine .inr ⟨fun a ha => ?_, rfl⟩
      have ha' := List.mem_reverse.mpr ha
      have hne := List.lookup_eq_none_iff.mp halias a ha'
      have hne' := List.lookup_eq_none_iff.mp hfield a ha'
      rw [bne_comm, bne_iff_ne] at hne hne'
      rw [SettingName.isArgument, beq_eq_false_iff_ne.mpr hne, beq_eq_false_iff_ne.mpr hne', Bool.or_false]

theorem findIn_name {texts : List (String × Option String)} {found : String × String}
    (h : findIn texts n = some found) : n.isArgument found.1 = true := by
  unfold findIn at h
  cases halias : findCaseless texts n.alias_ with
  | some v =>
    rw [halias] at h
    obtain rfl := Option.some.inj h
    exact isArgument_alias n
  | none =>
    rw [halias] at h
    obtain ⟨v, -, rfl⟩ := Option.map_eq_some_iff.mp h
    exact isArgument_field n

/-- What is found came under a name of the setting. -/
theorem isArgument_of_find? {k : String} {d : Datum} (h : s.find? n = some (k, d)) : n.isArgument k = true := by
  rw [find?_eq] at h
  rcases argument?_cases s n with ⟨a, -, hname, hargument⟩ | ⟨-, hargument⟩
  · rw [hargument, Option.some_or] at h
    rwa [Option.some.inj h] at hname
  · rw [hargument, Option.none_or] at h
    obtain ⟨found, htext, heq⟩ := Option.map_eq_some_iff.mp h
    have hmem : found ∈ [s.environmentTexts, s.fileTexts].filterMap fun texts => findIn texts n := by
      unfold text? at htext
      rcases Option.or_eq_some_iff.mp htext with hfind | ⟨-, hhead⟩
      · exact List.mem_of_find?_eq_some hfind
      · exact List.mem_of_head? hhead
    obtain ⟨texts, -, hfound⟩ := List.mem_filterMap.mp hmem
    obtain ⟨rfl, -⟩ := Prod.mk.inj heq
    exact findIn_name hfound

/-- **The value that counts is the one that is found.** -/
theorem find?_of_wins (hdistinct : s.Distinct) (hunambiguous : s.Unambiguous n) (h : s.Wins n w) :
    s.find? n = w := by
  rw [find?_eq]
  rcases argument?_cases s n with ⟨a, ha, hname, hargument⟩ | ⟨hno, hargument⟩
  · -- an argument is all that is looked at
    rw [hargument]
    cases h with
    | argument hmem hname' => rw [hunambiguous.arguments a ha _ hmem hname hname']; rfl
    | environment hno _ _ => cases (hno a ha).symm.trans hname
    | file hno _ _ _ => cases (hno a ha).symm.trans hname
    | default hno _ _ => cases (hno a ha).symm.trans hname
  · rw [hargument, Option.none_or]
    have hempty (hvariables : ∀ a ∈ s.environmentTexts, lower a.1 ≠ lower n.alias_) : findIn s.environmentTexts n = none :=
      findIn_eq_none hunambiguous.environment fun a ha hname => absurd hname (hvariables a ha)
    cases h with
    | argument hmem hname => cases (hno _ hmem).symm.trans hname
    | environment _ hmem hname =>
      rw [text?_of_variable (findIn_of_mem hunambiguous.environment hdistinct.environment hmem hname)]
      rfl
    | file _ hvariables hmem hname =>
      have hentry := findIn_of_mem hunambiguous.file hdistinct.file hmem hname
      rw [text?_of_entry (hempty hvariables) hentry]
      rfl
    | default _ hvariables hentries =>
      rw [text?_eq_none (hempty hvariables) (findIn_eq_none hunambiguous.file hentries)]
      rfl

theorem exists_wins (s : Sources) (n : SettingName) : ∃ w, s.Wins n w := by
  rcases argument?_cases s n with ⟨⟨k, d⟩, hmem, hname, -⟩ | ⟨harguments, -⟩
  · exact ⟨_, .argument hmem hname⟩
  by_cases hvariable : ∃ k v, (k, some v) ∈ s.environmentTexts ∧ lower k = lower n.alias_
  · obtain ⟨k, v, hmem, hname⟩ := hvariable
    exact ⟨_, .environment harguments hmem hname⟩
  have hvariables : ∀ a ∈ s.environmentTexts, lower a.1 ≠ lower n.alias_ := by
    intro a ha hname
    obtain ⟨⟨k, v⟩, -, rfl⟩ := List.mem_map.mp ha
    exact hvariable ⟨k, v, ha, hname⟩
  by_cases hentry : ∃ k v, (k, some v) ∈ s.fileTexts ∧ lower k = lower n.alias_
  · obtain ⟨k, v, hmem, hname⟩ := hentry
    exact ⟨_, .file harguments hvariables hmem hname⟩
  refine ⟨none, .default harguments hvariables ?_⟩
  rintro ⟨k, value⟩ hmem hname
  cases value with
  | none => rfl
  | some v => exact absurd ⟨k, v, hmem, hname⟩ hentry

/-- Exactly one value counts. -/
theorem wins_iff (hdistinct : s.Distinct) (hunambiguous : s.Unambiguous n) : s.Wins n w ↔ w = s.find? n := by
  refine ⟨fun h => (find?_of_wins hdistinct hunambiguous h).symm, ?_⟩
  rintro rfl
  obtain ⟨w, h⟩ := exists_wins s n
  rwa [find?_of_wins hdistinct hunambiguous h]

/-! ## What a setting depends on -/

/-- The part of the sources that matters to a setting. -/
def about (s : Sources) (n : SettingName) : Sources where
  arguments := s.arguments.filter fun a => n.isArgument a.1
  environment := s.environment.filter fun a => n.isSpelling a.1
  file := s.file.filter fun e => n.isSpelling e.name

theorem findCaseless_filter {p : String → Bool} {name : String} (hp : ∀ k, lower k = lower name → p k = true)
    (texts : List (String × Option String)) :
    findCaseless (texts.filter fun a => p a.1) name = findCaseless texts name := by
  have hboth : (fun a : String × Option String => decide (p a.1 = true ∧ (lower a.1 == lower name) = true)) =
      fun a => lower a.1 == lower name := by
    funext a
    rw [Bool.eq_iff_iff, decide_eq_true_iff, and_iff_right_iff_imp, beq_iff_eq]
    exact hp a.1
  rw [findCaseless_eq, findCaseless_eq, ← List.filter_reverse, List.find?_filter, hboth]

theorem findIn_filter (texts : List (String × Option String)) (n : SettingName) :
    findIn (texts.filter fun a => n.isSpelling a.1) n = findIn texts n := by
  rw [findIn, findIn, findCaseless_filter fun k => isSpelling_alias, findCaseless_filter fun k => isSpelling_field]

theorem argument?_about (s : Sources) (n : SettingName) : (s.about n).argument? n = s.argument? n := by
  rw [argument?, argument?, about]
  dsimp only
  rw [← List.filter_reverse, lookup_filter, lookup_filter, if_pos (isArgument_alias n), if_pos (isArgument_field n)]

/-- **A setting depends on what is named for it.** -/
theorem find?_about (s : Sources) (n : SettingName) : (s.about n).find? n = s.find? n := by
  have hvariables : (s.about n).environmentTexts = s.environmentTexts.filter fun a => n.isSpelling a.1 := by
    rw [environmentTexts, environmentTexts, List.filter_map]
    rfl
  have hentries : (s.about n).fileTexts = s.fileTexts.filter fun a => n.isSpelling a.1 := by
    rw [fileTexts, fileTexts, List.filter_map]
    rfl
  rw [find?_eq, find?_eq, argument?_about]
  simp only [text?, hvariables, hentries, List.filterMap_cons, findIn_filter]

end Sources

end RenderBench
