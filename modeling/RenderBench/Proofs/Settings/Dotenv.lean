import Mathlib.Data.List.Infix
import Mathlib.Data.List.Nodup
import RenderBench.Settings.Dotenv

/-!
# `Proofs.Settings.Dotenv` — entries of a file of settings

An entry replaces the one of its name or comes last, so that a name has one entry in the end. What the entries of some
names are is decided by the lines of these names alone, unless their values refer to others.

## Contents
- `written`, `read_entries`: the entries as they are written.
- `nodup_entries`: every name has one entry.
- `HasReference`, `replaceReferences_eq_self`: values that refer to nothing.
- `filter_entries`: the entries of some names.
-/

namespace RenderBench.Dotenv

/-- The entries as they are written, in the order of their lines. -/
def written (cs : List Char) : List DotenvEntry :=
  (bindingsFrom (cs.length + 1) 1 cs).filterMap fun
    | (_, .entry e) => some e
    | _ => none

theorem read_entries (environment : List (String × String)) (cs : List Char) :
    (read environment cs).entries = resolveReferences environment (written cs) := rfl

/-! ## Entries that replace others -/

theorem names_setEntry (e : DotenvEntry) (es : List DotenvEntry) :
    (setEntry e es).map DotenvEntry.name =
      if e.name ∈ es.map DotenvEntry.name then es.map DotenvEntry.name else es.map DotenvEntry.name ++ [e.name] := by
  induction es with
  | nil => rfl
  | cons f es ih =>
    rw [setEntry, List.map_cons]
    by_cases hname : f.name = e.name
    · rw [if_pos hname, if_pos (List.mem_cons.mpr (.inl hname.symm)), List.map_cons, hname]
    · rw [if_neg hname, List.map_cons, ih]
      by_cases hmem : e.name ∈ es.map DotenvEntry.name
      · rw [if_pos hmem, if_pos (List.mem_cons_of_mem _ hmem)]
      · have hnot : e.name ∉ f.name :: es.map DotenvEntry.name := by
          rw [List.mem_cons, not_or]
          exact ⟨Ne.symm hname, hmem⟩
        rw [if_neg hmem, if_neg hnot, List.cons_append]

theorem nodup_setEntry {es : List DotenvEntry} (e : DotenvEntry) (h : (es.map DotenvEntry.name).Nodup) :
    ((setEntry e es).map DotenvEntry.name).Nodup := by
  rw [names_setEntry]
  split
  · exact h
  · next hnot =>
    refine List.nodup_append.mpr ⟨h, List.nodup_singleton _, ?_⟩
    rintro a ha b hb rfl
    exact hnot (List.mem_singleton.mp hb ▸ ha)

/-- **A name has one entry.** -/
theorem nodup_entries (environment : List (String × String)) (cs : List Char) :
    ((read environment cs).entries.map DotenvEntry.name).Nodup := by
  rw [read_entries, resolveReferences]
  refine List.foldlRecOn (motive := fun es : List DotenvEntry => (es.map DotenvEntry.name).Nodup) _ _ List.nodup_nil ?_
  intro done h e _
  exact nodup_setEntry _ h

/-- Entries of other names do not matter to those of some names. -/
theorem filter_setEntry (p : String → Bool) (e : DotenvEntry) (es : List DotenvEntry) :
    (setEntry e es).filter (fun f => p f.name) =
      if p e.name then setEntry e (es.filter fun f => p f.name) else es.filter fun f => p f.name := by
  -- an entry of the name is replaced where it stands, on either side
  induction es with
  | nil =>
    rw [setEntry, List.filter_cons, List.filter_nil, setEntry]
  | cons f es ih =>
    rw [setEntry]
    by_cases hname : f.name = e.name
    · rw [if_pos hname, List.filter_cons, List.filter_cons, hname]
      by_cases hp : p e.name = true
      · rw [if_pos hp, if_pos hp, if_pos hp, setEntry, if_pos hname]
      · rw [if_neg hp, if_neg hp, if_neg hp]
    · rw [if_neg hname, List.filter_cons, List.filter_cons, ih]
      by_cases hp : p e.name = true
      · rw [if_pos hp, if_pos hp]
        by_cases hf : p f.name = true
        · rw [if_pos hf, if_pos hf, setEntry, if_neg hname]
        · rw [if_neg hf, if_neg hf]
      · rw [if_neg hp, if_neg hp]

/-! ## References -/

/-- A value that holds the beginning of a reference. -/
def HasReference (v : String) : Prop := ['$', '\x7b'] <:+: v.toList

instance (v : String) : Decidable (HasReference v) := inferInstanceAs (Decidable (['$', '\x7b'] <:+: v.toList))

theorem replaceReferences_eq_self (value : Reference → List Char) {cs : List Char} (h : ¬ ['$', '\x7b'] <:+: cs) :
    replaceReferences value 0 cs = cs := by
  induction cs with
  | nil => rw [replaceReferences]
  | cons c cs ih =>
    have hrest : ¬ ['$', '\x7b'] <:+: cs := fun hin => h (hin.trans (List.suffix_cons c cs).isInfix)
    rw [replaceReferences, ih hrest]
    rintro cs' rfl rfl
    exact h (List.prefix_append ['$', '\x7b'] cs').isInfix

/-- An entry with its references replaced, after those that are done. -/
def resolved (environment : List (String × String)) (done : List DotenvEntry) (e : DotenvEntry) : DotenvEntry :=
  { e with value := e.value.map fun v =>
      String.ofList (replaceReferences (referenceValue environment done) 0 v.toList) }

theorem resolved_eq_self {environment : List (String × String)} {done : List DotenvEntry} {e : DotenvEntry}
    (hplain : ∀ v, e.value = some v → ¬ HasReference v) : resolved environment done e = e := by
  obtain ⟨name, value⟩ := e
  cases value with
  | none => rfl
  | some v =>
    have hv := replaceReferences_eq_self (referenceValue environment done) (hplain v rfl)
    rw [resolved, Option.map_some, hv, String.ofList_toList]

/-- The entries that lines leave which refer to nothing, each replacing the one of its name. -/
def lastEntries (es : List DotenvEntry) : List DotenvEntry := es.foldl (fun done e => setEntry e done) []

/-- **The entries of some names** are those of their lines, as long as these refer to nothing. -/
theorem filter_entries (p : String → Bool) (environment : List (String × String)) (cs : List Char)
    (hplain : ∀ e ∈ written cs, p e.name = true → ∀ v, e.value = some v → ¬ HasReference v) :
    (read environment cs).entries.filter (fun e => p e.name) =
      lastEntries ((written cs).filter fun e => p e.name) := by
  -- by induction on the lines, for whatever has been set before them
  have hfold (es done : List DotenvEntry)
      (hes : ∀ e ∈ es, p e.name = true → ∀ v, e.value = some v → ¬ HasReference v) :
      (es.foldl (fun done e => setEntry (resolved environment done e) done) done).filter (fun e => p e.name) =
        (es.filter fun e => p e.name).foldl (fun done e => setEntry e done) (done.filter fun e => p e.name) := by
    induction es generalizing done with
    | nil => rfl
    | cons e es ih =>
      obtain ⟨he, hes⟩ := List.forall_mem_cons.mp hes
      have hname : (resolved environment done e).name = e.name := rfl
      rw [List.foldl_cons, ih _ hes, filter_setEntry, hname, List.filter_cons]
      by_cases hp : p e.name = true
      · rw [if_pos hp, if_pos hp, resolved_eq_self (he hp), List.foldl_cons]
      · rw [if_neg hp, if_neg hp]
  exact hfold (written cs) [] hplain

end RenderBench.Dotenv
