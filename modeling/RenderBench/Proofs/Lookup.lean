/-!
# `Proofs.Lookup` — values by name

The first value of a name in a list of pairs is one of the pairs, and stays the first when pairs of other names are
left out. Where no name is given twice, it does not depend on the order of the pairs.
-/

namespace RenderBench

variable {κ α : Type} [BEq κ] [LawfulBEq κ]

theorem lookup_pair (name : κ) (value : α) (pairs : List (κ × α)) (k : κ) [Decidable (k = name)] :
    ((name, value) :: pairs).lookup k = if k = name then some value else pairs.lookup k := by
  rw [List.lookup_cons]
  by_cases h : k = name
  · rw [beq_iff_eq.mpr h, if_pos h]
  · rw [beq_eq_false_iff_ne.mpr h, if_neg h]

theorem mem_of_lookup {pairs : List (κ × α)} {k : κ} {a : α} (h : pairs.lookup k = some a) : (k, a) ∈ pairs := by
  obtain ⟨before, after, rfl, -⟩ := List.lookup_eq_some_iff.mp h
  exact List.mem_append_right before List.mem_cons_self

/-- Where no name is given twice, every pair is found. -/
theorem lookup_eq_some_of_nodup {pairs : List (κ × α)} (hnames : (pairs.map Prod.fst).Nodup) {k : κ} {a : α}
    (h : (k, a) ∈ pairs) : pairs.lookup k = some a := by
  induction pairs with
  | nil => nomatch h
  | cons pair pairs ih =>
    obtain ⟨name, value⟩ := pair
    obtain ⟨hname, hrest⟩ := List.nodup_cons.mp hnames
    rcases List.mem_cons.mp h with hhead | htail
    · obtain ⟨rfl, rfl⟩ := Prod.mk.inj hhead
      exact List.lookup_cons_self
    · have hmem : k ∈ pairs.map Prod.fst := List.mem_map_of_mem htail
      have hne : k ≠ name := ne_of_mem_of_not_mem hmem hname
      rw [List.lookup_cons, beq_eq_false_iff_ne.mpr hne]
      exact ih hrest htail

theorem lookup_perm {pairs others : List (κ × α)} (hnames : (pairs.map Prod.fst).Nodup) (h : others.Perm pairs) (k : κ) :
    others.lookup k = pairs.lookup k := by
  cases hothers : others.lookup k with
  | some a => exact (lookup_eq_some_of_nodup hnames (h.mem_iff.mp (mem_of_lookup hothers))).symm
  | none =>
    cases hpairs : pairs.lookup k with
    | none => rfl
    | some a =>
      have hfound := lookup_eq_some_of_nodup ((h.map Prod.fst).nodup_iff.mpr hnames)
        (h.mem_iff.mpr (mem_of_lookup hpairs))
      rw [hothers] at hfound
      cases hfound

theorem lookup_filter [DecidableEq κ] (p : κ → Bool) (pairs : List (κ × α)) (k : κ) :
    (pairs.filter fun a => p a.1).lookup k = if p k then pairs.lookup k else none := by
  induction pairs with
  | nil =>
    split
    · rfl
    · rfl
  | cons a pairs ih =>
    obtain ⟨name, value⟩ := a
    rw [List.filter_cons, lookup_pair]
    by_cases hname : p name = true
    · rw [if_pos hname, lookup_pair, ih]
      by_cases hk : k = name
      · rw [if_pos hk, hk, if_pos hname, if_pos rfl]
      · rw [if_neg hk, if_neg hk]
    · rw [if_neg hname, ih]
      by_cases hk : k = name
      · rw [hk, if_neg hname, if_neg hname]
      · rw [if_neg hk]

end RenderBench
