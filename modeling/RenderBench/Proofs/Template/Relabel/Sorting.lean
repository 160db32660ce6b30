import RenderBench.Proofs.Template.Relabel.Access
import RenderBench.Template.Sorting

/-!
# `Proofs.Template.Relabel.Sorting` — sorting under a relabelling

Sorting compares keys and moves values. The comparisons of relabelled keys have the same outcomes, so that every run
of the sort is the relabelled run.

## Contents
- `keyLt_relabel`: one comparison.
- `frontRun_relabel`, `insertSorted_relabel`, `sortKeyed_relabel`: the sort.
- `sortBy_relabel`, `bestBy_relabel`: by keys that are evaluated first.
-/

namespace RenderBench.Template

variable {α β : Type} {r : Relabelling}

/-- Keys are compared, and a key holds labels only in what it fails with. -/
theorem keyLt_relabel (a b : Keyed) : keyLt (relabel r a) (relabel r b) = relabel r (keyLt a b) :=
  orderValues_relabel .lt a.1 b.1

theorem spanRun_relabel (descending : Bool) (xs : List Keyed) : ∀ last : Keyed,
    spanRun descending (relabel r last) (relabel r xs) = relabel r (spanRun descending last xs) := by
  induction xs with
  | nil => exact fun _ => rfl
  | cons x xs ih =>
    intro last
    rw [spanRun, ]
    refine bind_relabel (keyLt_relabel x last) fun below => ?_
    rw [relabel_bool, id_eq]
    split
    · exact bind_relabel (ih x) fun _ => rfl
    · rfl

/-- The run that sorting starts with, turned round if it goes down. -/
theorem frontRun_relabel (xs : List Keyed) : frontRun (relabel r xs) = relabel r (frontRun xs) := by
  match xs with
  | [] => rfl
  | [x] => rfl
  | x :: y :: rest =>
    refine bind_relabel (keyLt_relabel y x) fun descending => ?_
    refine bind_relabel (spanRun_relabel descending rest y) fun run => ?_
    cases descending with
    | true =>
      show (.ok ((relabel r (x :: y :: run.1)).reverse, relabel r run.2) : Eval (List Keyed × List Keyed)) =
        .ok (relabel r (x :: y :: run.1).reverse, relabel r run.2)
      rw [relabel_list, List.map_reverse]
    | false => rfl

/-- The place of an element, found by halving; the fuel is the same on both sides. -/
theorem placeWithin_relabel (x : Keyed) (sorted : List Keyed) : ∀ fuel low high,
    placeWithin (relabel r x) (relabel r sorted).toArray fuel low high =
      relabel r (placeWithin x sorted.toArray fuel low high)
  | 0, _, _ => rfl
  | fuel + 1, low, high => by
    rw [placeWithin, placeWithin, relabel_list]
    split
    · simp only [List.getElem?_toArray, List.getElem?_map]
      cases sorted[low + (high - low) / 2]? with
      | none => rfl
      | some y =>
        refine bind_relabel (keyLt_relabel x y) fun below => ?_
        rw [relabel_bool, id_eq]
        split
        · exact placeWithin_relabel x sorted fuel low _
        · exact placeWithin_relabel x sorted fuel _ high
    · rfl

theorem insertSorted_relabel (sorted : List Keyed) (x : Keyed) :
    insertSorted (relabel r sorted) (relabel r x) = relabel r (insertSorted sorted x) := by
  have hplace := placeWithin_relabel (r := r) x sorted (sorted.toArray.size + 1) 0 sorted.toArray.size
  have hsize : (relabel r sorted).toArray.size = sorted.toArray.size := List.length_map ..
  rw [insertSorted, hsize]
  refine bind_relabel hplace fun place => ?_
  show (.ok ((sorted.map (relabel r)).take place ++ relabel r x :: (sorted.map (relabel r)).drop place) :
    Eval (List Keyed)) = .ok ((sorted.take place ++ x :: sorted.drop place).map (relabel r))
  rw [List.map_append, List.map_cons, List.map_take, List.map_drop]

/-- Elements with their keys, sorted. -/
theorem sortKeyed_relabel (xs : List Keyed) : sortKeyed (relabel r xs) = relabel r (sortKeyed xs) := by
  refine bind_relabel (frontRun_relabel xs) fun run => ?_
  exact foldlM_relabel insertSorted_relabel run.2 run.1

/-- A value with its key. -/
def withKey (key : Value → Eval Value) (v : Value) : Eval Keyed := do return (← key v, v)

theorem withKey_relabel {key key' : Value → Eval Value} (hkey : ∀ v, key' (v.relabel r) = relabel r (key v))
    (v : Value) : withKey key' (v.relabel r) = relabel r (withKey key v) :=
  bind_relabel (hkey v) fun _ => rfl

/-- **Sorting by a key** puts the relabelled elements into the same order. -/
theorem sortBy_relabel {key key' : Value → Eval Value} (hkey : ∀ v, key' (v.relabel r) = relabel r (key v))
    (descending : Bool) (vs : List Value) :
    sortBy key' descending (vs.map (Value.relabel r)) = relabel r (sortBy key descending vs) := by
  refine bind_relabel (mapM_relabel (withKey_relabel hkey) vs) fun keyed => ?_
  have hvalues (xs : List Keyed) : (relabel r xs).map Prod.snd = (xs.map Prod.snd).map (Value.relabel r) := by
    rw [relabel_list, List.map_map, List.map_map]
    rfl
  split
  · rw [relabel_list, ← List.map_reverse]
    refine bind_relabel (sortKeyed_relabel keyed.reverse) fun sorted => ?_
    show (.ok ((sorted.map (relabel r)).reverse.map Prod.snd) : Eval (List Value)) =
      .ok ((sorted.reverse.map Prod.snd).map (Value.relabel r))
    rw [← List.map_reverse, ← hvalues, relabel_list]
  · exact bind_relabel (sortKeyed_relabel keyed) fun sorted => congrArg Except.ok (hvalues sorted)

/-- The first of the least or greatest elements. -/
theorem bestBy_relabel (op : OrderOp) (xs : List Keyed) : ∀ first : Keyed,
    bestBy op (relabel r first) (relabel r xs) = relabel r (bestBy op first xs) := by
  induction xs with
  | nil => exact fun _ => rfl
  | cons x xs ih =>
    intro first
    refine bind_relabel (orderValues_relabel op x.1 first.1) fun before => ?_
    rw [relabel_bool, id_eq]
    split
    · exact ih x
    · exact ih first

end RenderBench.Template
