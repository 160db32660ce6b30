import RenderBench.CommandLine.Run
import RenderBench.Proofs.CommandLine.Config

/-!
# `Proofs.CommandLine.Bounds` — checks that are made before a session

The options, the settings and the variants are checked where they come from, each on its own. Together the
bounds of the three layers imply everything a session asks of its parameters, so that of its own checks only
that of the template can fail.

## Contents
- `RunOptions.Bounded`, `bounded_of_read`: options that have been read.
- `Settings.Bounded`, `bounded_of_load`: settings that have been read.
- `Variant.Bounded`, `Variant.bounded_of_mem`: variants.
- `accepted_of_bounded`: a session with parameters from the three layers.
-/

namespace RenderBench

/-! ## Variants -/

/-- What a session asks of a variant. -/
structure Variant.Bounded (v : Variant) : Prop where
  runs : 1 ≤ v.runCount
  items : ∀ n, v.itemCount = some n → 0 ≤ n
  shape : ∃ shape : Shape, v.shape = shape.name

theorem Variant.mem_of_ofName {name : String} {v : Variant} (h : Variant.ofName name = .ok v) :
    v ∈ Variant.all := by
  unfold Variant.ofName at h
  cases hfind : Variant.all.find? fun v => v.name == name with
  | none =>
    rw [hfind] at h
    cases h
  | some found =>
    rw [hfind] at h
    obtain rfl := Except.ok.inj h
    exact List.mem_of_find?_eq_some hfind

theorem Variant.bounded_of_mem {v : Variant} (h : v ∈ Variant.all) : v.Bounded := by
  rcases List.mem_cons.mp h with rfl | h
  · exact ⟨by decide, fun n hn => by cases hn; decide, .customer, rfl⟩
  · obtain rfl := List.mem_singleton.mp h
    exact ⟨by decide, nofun, .flat, rfl⟩

theorem Shape.ofName?_name (shape : Shape) : Shape.ofName? shape.name = some shape := by
  cases shape <;> rfl

/-! ## Settings -/

/-- What a session asks of its settings. -/
structure Settings.Bounded (s : Settings) : Prop where
  items : ∀ n, s.items = some n → 0 ≤ n
  runs : ∀ n, s.runs = some n → 1 ≤ n
  warmup : 0 ≤ s.warmupRuns

theorem le_of_atLeast {bound i n : Int} (h : atLeast bound i = .ok n) : bound ≤ n := by
  unfold atLeast at h
  by_cases hlt : i < bound
  · rw [if_pos hlt] at h
    cases h
  · rw [if_neg hlt] at h
    obtain rfl := Except.ok.inj h
    exact not_lt.mp hlt

namespace Settings

/-- A setting has its default, or a value that was converted. -/
theorem setting_eq_ok {α : Type} {s : Sources} {field alias_ : String} {default a : α}
    {convert : Datum → Except Problem α} (h : setting s field alias_ default convert = .ok a) :
    a = default ∨ ∃ d, convert d = .ok a := by
  unfold setting at h
  cases hfind : s.find? ⟨field, alias_⟩ with
  | none =>
    rw [hfind] at h
    exact .inl (Except.ok.inj h).symm
  | some found =>
    rw [hfind] at h
    exact .inr ⟨found.2, ok_of_mapError_ok h⟩

theorem le_of_optionalCount {bound n : Int} {d : Datum} {value : Option Int}
    (h : optionalCount bound d = .ok value) (hn : value = some n) : bound ≤ n := by
  unfold optionalCount at h
  split at h
  · cases hn.symm.trans (Except.ok.inj h).symm
  · obtain ⟨i, _, h⟩ := exists_of_bind_ok h
    obtain ⟨m, hm, h⟩ := exists_of_bind_ok h
    obtain rfl : m = n := Option.some.inj ((Except.ok.inj h).trans hn)
    exact le_of_atLeast hm

/-- A number that is left open by default is not below its bound. -/
theorem le_of_setting {s : Sources} {field alias_ : String} {bound n : Int} {value : Option Int}
    (h : setting s field alias_ none (optionalCount bound) = .ok value) (hn : value = some n) :
    bound ≤ n := by
  rcases setting_eq_ok h with hdefault | ⟨d, hd⟩
  · cases hn.symm.trans hdefault
  · exact le_of_optionalCount hd hn

theorem bounded_of_ofSources {sources : Sources} {s : Settings} (h : ofSources sources = .ok s) :
    s.Bounded := by
  unfold ofSources at h
  simp only at h
  split at h
  case h_2 => cases h
  case h_1 hitems hruns hwarmup _ =>
    obtain rfl := Except.ok.inj h
    refine ⟨fun n => le_of_setting hitems, fun n => le_of_setting hruns, ?_⟩
    rcases setting_eq_ok hwarmup with hdefault | ⟨d, hd⟩
    · exact hdefault.ge
    · obtain ⟨i, _, hleast⟩ := exists_of_bind_ok hd
      exact le_of_atLeast hleast

/-- **Settings that have been read** are within their bounds. -/
theorem bounded_of_load {files : FileStore} {environment : Environment}
    {arguments : List (String × Datum)} {s : Settings}
    (h : load files environment arguments = .ok s) : s.Bounded := by
  unfold load at h
  cases hfile : readFile files environment with
  | error f =>
    rw [hfile] at h
    cases h
  | ok file =>
    rw [hfile] at h
    exact bounded_of_ofSources (ok_of_mapError_ok h)

end Settings

/-! ## Options -/

namespace CommandLine

/-- What a session asks of its options. -/
structure RunOptions.Bounded (o : RunOptions) : Prop where
  items : ∀ n, o.items = some n → 0 ≤ n
  runs : ∀ n, o.runs = some n → 1 ≤ n
  warmup : ∀ n, o.warmupRuns = some n → 0 ≤ n

theorem le_of_readCount {names : List String} {bound n : Int} {text : String}
    (h : readCount names bound text = .ok n) : bound ≤ n := by
  obtain ⟨i, _, hleast⟩ := exists_of_bind_ok (ok_of_mapError_ok h)
  exact le_of_atLeast hleast

namespace RunOptions

theorem bounded_default : Bounded {} := ⟨nofun, nofun, nofun⟩

/-- One option at a time. -/
theorem bounded_set {o o' : RunOptions} {given : RunOption × String} (h : o.Bounded)
    (hset : o.set given = .ok o') : o'.Bounded := by
  obtain ⟨option, text⟩ := given
  cases option with
  | items =>
    obtain ⟨n, hn, rfl⟩ := exists_of_map_ok hset
    exact ⟨fun m hm => Option.some.inj hm ▸ le_of_readCount hn, h.runs, h.warmup⟩
  | runs =>
    obtain ⟨n, hn, rfl⟩ := exists_of_map_ok hset
    exact ⟨h.items, fun m hm => Option.some.inj hm ▸ le_of_readCount hn, h.warmup⟩
  | warmupRuns =>
    obtain ⟨n, hn, rfl⟩ := exists_of_map_ok hset
    exact ⟨h.items, h.runs, fun m hm => Option.some.inj hm ▸ le_of_readCount hn⟩
  | shape =>
    obtain ⟨shape, _, rfl⟩ := exists_of_map_ok hset
    exact ⟨h.items, h.runs, h.warmup⟩
  | _ =>
    obtain rfl := Except.ok.inj hset
    exact ⟨h.items, h.runs, h.warmup⟩

end RunOptions

/-- The command that words behind a command's name ask for, if they ask for no help. -/
theorem exists_options_of_readWith {ι α : Type} [BEq ι] {specs : List (OptionSpec ι)} {help : ι}
    {options : α} {set : α → ι × String → Except UsageError α} {command : α → Command}
    {words : List String} {asked : Command}
    (h : Command.readWith specs help options set command words = .ok asked) :
    asked = .help ∨ ∃ (given : List (ι × String)) (read : α),
      given.foldlM set options = .ok read ∧ asked = command read := by
  unfold Command.readWith at h
  obtain ⟨scanned, _, h⟩ := exists_of_bind_ok h
  split at h
  case isTrue => exact .inl (Except.ok.inj h).symm
  case isFalse =>
    obtain ⟨read, hread, h⟩ := exists_of_bind_ok h
    by_cases hrest : scanned.rest.isEmpty
    · rw [if_pos hrest] at h
      exact .inr ⟨_, read, hread, (Except.ok.inj h).symm⟩
    · rw [if_neg hrest] at h
      cases h

theorem ofGroupOption_ne_run (option : GroupOption) (o : RunOptions) :
    Command.ofGroupOption option ≠ .run o := by
  cases option <;> exact nofun

/-- **Options that have been read** are within their bounds. -/
theorem bounded_of_read {words : List String} {o : RunOptions}
    (h : Command.read words = .ok (.run o)) : o.Bounded := by
  unfold Command.read at h
  obtain ⟨scanned, _, h⟩ := exists_of_bind_ok h
  split at h
  case h_1 option _ _ _ => exact absurd (Except.ok.inj h) (ofGroupOption_ne_run option o)
  case h_2 => cases h
  case h_3 =>
    rcases exists_options_of_readWith h with hhelp | ⟨_, _, _, hcommand⟩
    · cases hhelp
    · cases hcommand
  case h_4 =>
    rcases exists_options_of_readWith h with hhelp | ⟨given, read, hread, hcommand⟩
    · cases hhelp
    · obtain rfl := Command.run.inj hcommand
      exact of_foldlM_ok RunOptions.bounded_set given RunOptions.bounded_default hread
  case h_5 =>
    rcases exists_options_of_readWith h with hhelp | ⟨_, _, _, hcommand⟩
    · cases hhelp
    · cases hcommand
  case h_6 =>
    -- a word that names no command may still be an option
    obtain ⟨again, _, h⟩ := exists_of_bind_ok h
    split at h
    case h_1 option _ _ _ => exact absurd (Except.ok.inj h) (ofGroupOption_ne_run option o)
    case h_2 => cases h

/-! ## The session -/

section

variable {o : RunOptions} {settings : Settings} {v : Variant}

theorem one_le_effectiveRuns (ho : o.Bounded) (hsettings : settings.Bounded) (hv : v.Bounded) :
    1 ≤ o.effectiveRuns settings v := by
  unfold RunOptions.effectiveRuns
  cases hoption : o.runs with
  | some n => exact ho.runs n hoption
  | none =>
    cases hsetting : settings.runs with
    | some n => exact hsettings.runs n hsetting
    | none => exact hv.runs

theorem effectiveItems_nonneg (ho : o.Bounded) (hsettings : settings.Bounded) (hv : v.Bounded) :
    0 ≤ o.effectiveItems settings v := by
  unfold RunOptions.effectiveItems
  cases hoption : o.items with
  | some n => exact ho.items n hoption
  | none =>
    cases hsetting : settings.items with
    | some n => exact hsettings.items n hsetting
    | none =>
      cases hvariant : v.itemCount with
      | some n => exact hv.items n hvariant
      | none => exact (one_le_effectiveRuns ho hsettings hv).trans' (by decide)

theorem effectiveWarmup_nonneg (ho : o.Bounded) (hsettings : settings.Bounded) :
    0 ≤ (o.effective settings v).warmupRuns := by
  show 0 ≤ o.warmupRuns.getD settings.warmupRuns
  cases hoption : o.warmupRuns with
  | some n => exact ho.warmup n hoption
  | none => exact hsettings.warmup

theorem effectiveShape_known (hv : v.Bounded) :
    ∃ shape, Shape.ofName? (o.effective settings v).shape = some shape := by
  show ∃ shape, Shape.ofName? ((o.shape.map Shape.name).getD v.shape) = some shape
  cases o.shape with
  | some shape => exact ⟨shape, Shape.ofName?_name shape⟩
  | none =>
    obtain ⟨shape, hshape⟩ := hv.shape
    exact ⟨shape, hshape ▸ Shape.ofName?_name shape⟩

/-- **The bounds of the three layers** leave the template as the only check of a session that can fail. -/
theorem accepted_of_bounded {files : FileStore} {t : Template} (ho : o.Bounded)
    (hsettings : settings.Bounded) (hv : v.Bounded)
    (hload : Template.load files (o.effectiveTemplate settings) = .ok t) :
    Accepted files (o.effective settings v) where
  runs := one_le_effectiveRuns ho hsettings hv
  warmup := effectiveWarmup_nonneg ho hsettings
  template := ⟨t, hload⟩
  items := effectiveItems_nonneg ho hsettings hv
  shape := effectiveShape_known hv

/-- A template that is not loaded is what such a session is refused for. -/
theorem refusal?_of_bounded {files : FileStore} {failure : LoadFailure} (ho : o.Bounded)
    (hsettings : settings.Bounded) (hv : v.Bounded)
    (hload : Template.load files (o.effectiveTemplate settings) = .error failure) :
    refusal? files (o.effective settings v) = some (.ofLoad failure) := by
  have hruns : ¬ (o.effective settings v).runCount < 1 :=
    not_lt.mpr (one_le_effectiveRuns ho hsettings hv)
  have hwarmup : ¬ (o.effective settings v).warmupRuns < 0 :=
    not_lt.mpr (effectiveWarmup_nonneg ho hsettings)
  have htemplate : Template.load files (o.effective settings v).templatePath = .error failure := hload
  rw [refusal?, if_neg hruns, if_neg hwarmup, htemplate]

end

end CommandLine

end RenderBench
