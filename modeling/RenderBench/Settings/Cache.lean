import RenderBench.Settings.Basic

/-!
# `Settings.Cache` — settings that are read once

The first successful reading of the settings is kept until the cache is cleared. Every kept reading has a
number, so that two of them can be told apart.
-/

namespace RenderBench

/-- The settings that are kept, with their number, and how many were kept so far. -/
structure SettingsCache where
  kept : Option (Nat × Settings) := none
  count : Nat := 0
  deriving DecidableEq

namespace SettingsCache

/-- Forgets the settings that are kept. -/
def clear (c : SettingsCache) : SettingsCache := { c with kept := none }

/-- The settings that are kept, or else those of now, which are kept from then on. A failure is not kept. -/
def get (c : SettingsCache) (files : FileStore) (environment : Environment) :
    Except Settings.Failure (Nat × Settings) × SettingsCache :=
  match c.kept with
  | some kept => (.ok kept, c)
  | none =>
    match Settings.load files environment [] with
    | .error e => (.error e, c)
    | .ok s => (.ok (c.count, s), { kept := some (c.count, s), count := c.count + 1 })

end SettingsCache

end RenderBench
