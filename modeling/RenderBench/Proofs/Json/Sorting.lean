import RenderBench.Json.Writer
import RenderBench.Proofs.Stepwise
import RenderBench.Session.Result

/-!
# `Proofs.Json.Sorting` — documents with their members in order

Sorting a document moves the members of its objects and nothing else: the sorted document holds the same data, and the
names of every object in it are in increasing order, provided that no object of the document has a name twice. The
document of a result has none.

## Contents
- `AllObjects`: what holds of the members of every object; `Ordered`, `NamesDistinct`.
- `Same`: documents that differ in the order of members only.
- `same_sorted`, `ordered_sorted`: sorting.
- `namesDistinct_toJson`: the document of a result.
-/

namespace RenderBench

namespace Json

/-! ## Objects at every level -/

mutual

/-- The members of every object of a document have a property. -/
def AllObjects (P : List (String × Json) → Prop) : Json → Prop
  | .list elements => AllObjectsElements P elements
  | .object members => P members ∧ AllObjectsMembers P members
  | _ => True

def AllObjectsElements (P : List (String × Json) → Prop) : List Json → Prop
  | [] => True
  | e :: es => AllObjects P e ∧ AllObjectsElements P es

def AllObjectsMembers (P : List (String × Json) → Prop) : List (String × Json) → Prop
  | [] => True
  | (_, v) :: ms => AllObjects P v ∧ AllObjectsMembers P ms

end

/-- The names of every object are in increasing order. -/
def Ordered (j : Json) : Prop := j.AllObjects fun ms => ms.Pairwise fun m n => m.1 < n.1

/-- No object has a name twice. -/
def NamesDistinct (j : Json) : Prop := j.AllObjects fun ms => (ms.map Prod.fst).Nodup

/-! ## The same data in another order -/

mutual

/-- Documents with the same members, in any order. -/
inductive Same : Json → Json → Prop
  | refl (j : Json) : Same j j
  | list {es es' : List Json} (elements : SameElements es es') : Same (.list es) (.list es')
  | object {ms ms' ns : List (String × Json)} (members : SameMembers ms ms') (order : ms'.Perm ns) :
      Same (.object ms) (.object ns)

inductive SameElements : List Json → List Json → Prop
  | nil : SameElements [] []
  | cons {e e' : Json} {es es' : List Json} (head : Same e e') (tail : SameElements es es') :
      SameElements (e :: es) (e' :: es')

inductive SameMembers : List (String × Json) → List (String × Json) → Prop
  | nil : SameMembers [] []
  | cons {k : String} {v v' : Json} {ms ms' : List (String × Json)} (head : Same v v') (tail : SameMembers ms ms') :
      SameMembers ((k, v) :: ms) ((k, v') :: ms')

end

/-! ## Members in order -/

variable {P : List (String × Json) → Prop} {m : String × Json} {ms ns : List (String × Json)}

theorem insertMember_perm (m : String × Json) (ms : List (String × Json)) : (insertMember m ms).Perm (m :: ms) := by
  induction ms with
  | nil => exact .refl _
  | cons n ns ih =>
    rw [insertMember]
    split
    · exact (ih.cons n).trans (.swap m n ns)
    · exact .refl _

theorem insertMember_pairwise (hnew : ∀ n ∈ ms, n.1 ≠ m.1) (h : ms.Pairwise fun a b => a.1 < b.1) :
    (insertMember m ms).Pairwise fun a b => a.1 < b.1 := by
  induction ms with
  | nil => exact List.pairwise_singleton _ m
  | cons n ns ih =>
    obtain ⟨hn, hns⟩ := List.pairwise_cons.mp h
    rw [insertMember]
    split
    · next hlt =>
      refine List.pairwise_cons.mpr ⟨fun a ha => ?_, ih (fun a ha => hnew a (List.mem_cons_of_mem n ha)) hns⟩
      rcases List.mem_cons.mp ((insertMember_perm m ns).mem_iff.mp ha) with rfl | ha
      · exact hlt
      · exact hn a ha
    · next hnot =>
      have hne : m.1 ≠ n.1 := (hnew n List.mem_cons_self).symm
      have hlt : m.1 < n.1 := Std.lt_of_le_of_ne (String.not_lt.mp hnot) hne
      refine List.pairwise_cons.mpr ⟨fun a ha => ?_, h⟩
      rcases List.mem_cons.mp ha with rfl | ha
      · exact hlt
      · exact String.lt_trans hlt (hn a ha)

theorem allObjectsMembers_iff : AllObjectsMembers P ms ↔ ∀ n ∈ ms, n.2.AllObjects P := by
  induction ms with
  | nil => simp [AllObjectsMembers]
  | cons n ns ih =>
    obtain ⟨k, v⟩ := n
    simp [AllObjectsMembers, ih]

/-! ## Sorting -/

mutual

/-- **Sorting keeps the data.** -/
theorem same_sorted (j : Json) : Same j j.sorted := by
  cases j with
  | list es => exact .list (sameElements_sorted es)
  | object ms =>
    obtain ⟨ns, hsame, hperm⟩ := exists_sameMembers_sorted ms
    exact .object hsame hperm
  | null => exact .refl _
  | bool b => exact .refl _
  | int i => exact .refl _
  | real x => exact .refl _
  | text s => exact .refl _

theorem sameElements_sorted (es : List Json) : SameElements es (sortedElements es) := by
  cases es with
  | nil => exact .nil
  | cons e es => exact .cons (same_sorted e) (sameElements_sorted es)

theorem exists_sameMembers_sorted (ms : List (String × Json)) :
    ∃ ns, SameMembers ms ns ∧ ns.Perm (sortedMembers ms) := by
  cases ms with
  | nil => exact ⟨[], .nil, .refl _⟩
  | cons m ms =>
    obtain ⟨k, v⟩ := m
    obtain ⟨ns, hsame, hperm⟩ := exists_sameMembers_sorted ms
    refine ⟨(k, v.sorted) :: ns, .cons (same_sorted v) hsame, ?_⟩
    rw [sortedMembers]
    exact (hperm.cons _).trans (insertMember_perm _ _).symm

end

theorem names_sortedMembers (ms : List (String × Json)) :
    ((sortedMembers ms).map Prod.fst).Perm (ms.map Prod.fst) := by
  induction ms with
  | nil => exact .refl _
  | cons m ms ih =>
    obtain ⟨k, v⟩ := m
    rw [sortedMembers]
    exact ((insertMember_perm (k, v.sorted) _).map Prod.fst).trans (ih.cons k)

theorem pairwise_sortedMembers (h : (ms.map Prod.fst).Nodup) : (sortedMembers ms).Pairwise fun a b => a.1 < b.1 := by
  induction ms with
  | nil => exact .nil
  | cons m ms ih =>
    obtain ⟨k, v⟩ := m
    obtain ⟨hk, hms⟩ := List.nodup_cons.mp h
    rw [sortedMembers]
    refine insertMember_pairwise ?_ (ih hms)
    intro n hn hname
    have hmem := List.mem_map_of_mem (f := Prod.fst) hn
    rw [hname] at hmem
    exact hk ((names_sortedMembers ms).mem_iff.mp hmem)

mutual

/-- **Sorting orders the names** of every object, if none stands twice. -/
theorem ordered_sorted (j : Json) (h : j.NamesDistinct) : j.sorted.Ordered := by
  cases j with
  | list es => exact orderedElements_sorted es h
  | object ms => exact ⟨pairwise_sortedMembers h.1, orderedMembers_sorted ms h.2⟩
  | null => trivial
  | bool b => trivial
  | int i => trivial
  | real x => trivial
  | text s => trivial

theorem orderedElements_sorted (es : List Json) (h : AllObjectsElements (fun ms => (ms.map Prod.fst).Nodup) es) :
    AllObjectsElements (fun ms => ms.Pairwise fun m n => m.1 < n.1) (sortedElements es) := by
  cases es with
  | nil => trivial
  | cons e es => exact ⟨ordered_sorted e h.1, orderedElements_sorted es h.2⟩

theorem orderedMembers_sorted (ms : List (String × Json))
    (h : AllObjectsMembers (fun ms => (ms.map Prod.fst).Nodup) ms) :
    AllObjectsMembers (fun ms => ms.Pairwise fun m n => m.1 < n.1) (sortedMembers ms) := by
  cases ms with
  | nil => trivial
  | cons m ms =>
    obtain ⟨k, v⟩ := m
    rw [sortedMembers, allObjectsMembers_iff]
    intro n hn
    rcases List.mem_cons.mp ((insertMember_perm (k, v.sorted) _).mem_iff.mp hn) with rfl | hn
    · exact ordered_sorted v h.1
    · exact allObjectsMembers_iff.mp (orderedMembers_sorted ms h.2) n hn

end

end Json

/-! ## The document of a result -/

open Json

theorem namesDistinct_ofOption {α : Type} {f : α → Json} (h : ∀ a, (f a).NamesDistinct) (o : Option α) :
    (Json.ofOption f o).NamesDistinct := by
  cases o with
  | none => trivial
  | some a => exact h a

theorem namesDistinct_profile (p : ProfileStats) : p.toJson.NamesDistinct := by
  have hnames : (["label", "start_ts", "end_ts", "duration_seconds", "peak_rss_bytes", "peak_traced_bytes",
      "cpu_percent"] : List String).Nodup := by decide
  refine ⟨hnames, allObjectsMembers_iff.mpr ?_⟩
  have hcount (o : Option Int) : (Json.ofOption .int o).NamesDistinct := namesDistinct_ofOption (f := .int) (fun _ => trivial) o
  have hshare : (Json.ofOption .real p.processor).NamesDistinct := namesDistinct_ofOption (f := .real) (fun _ => trivial) _
  simp only [List.forall_mem_cons, List.not_mem_nil, false_imp_iff, implies_true, and_true]
  exact ⟨trivial, trivial, trivial, trivial, hcount _, hcount _, hshare⟩

theorem allObjectsElements_ints (P : List (String × Json) → Prop) (samples : List Int) :
    AllObjectsElements P (samples.map .int) := by
  induction samples with
  | nil => trivial
  | cons s samples ih => exact ⟨trivial, ih⟩

theorem namesDistinct_figure (f : Figure) : f.toJson.NamesDistinct := by
  cases f with
  | whole i => trivial
  | real x => trivial

/-- No name stands twice in the document of a result. -/
theorem namesDistinct_toJson {r : SessionResult} {j : Json} (h : r.toJson true = .ok j) : j.NamesDistinct := by
  have hnames : (["label", "items", "runs", "min_micros", "max_micros", "average_micros", "median_micros",
      "stddev_micros", "render_errors", "warmup_runs", "profile", "samples"] : List String).Nodup := by decide
  unfold SessionResult.toJson at h
  obtain ⟨median, -, h⟩ := exists_of_bind_ok h
  obtain ⟨deviation, -, h⟩ := exists_of_bind_ok h
  obtain rfl := Except.ok.inj h
  refine ⟨hnames, allObjectsMembers_iff.mpr ?_⟩
  have hprofile := namesDistinct_ofOption namesDistinct_profile r.profile
  simp only [if_true, List.cons_append, List.nil_append, List.forall_mem_cons, List.not_mem_nil, false_imp_iff,
    implies_true, and_true]
  exact ⟨trivial, trivial, trivial, trivial, trivial, trivial, namesDistinct_figure median, trivial, trivial, trivial,
    hprofile, allObjectsElements_ints _ r.samples⟩

end RenderBench
