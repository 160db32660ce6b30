import RenderBench.Proofs.CommandLine.Bounds
import RenderBench.Proofs.CommandLine.Steps
import RenderBench.Proofs.Item.Reading

/-!
# `Proofs.Item.Generated` — generated items survive their written form

Every index from zero on makes an item, so that a range of items can always be made and a shorter range begins a longer
one. The items are printed one to a line, and every line makes its item again.

## Contents
- `mapM_makeItem`, `firstItems_prefix`: the items of a range.
- `items_nonneg_of_read`, `execute_generate`: the command that prints them.
- `generateRange_survives`: a range, its prefixes, its lines and what lies before it.
-/

namespace RenderBench

/-! ## Ranges -/

theorem makeItem_natCast (i : Nat) (shape : Shape) : makeItem i shape = .ok (itemAt i shape) := by
  have hle : ¬ (i : Int) < 0 := by omega
  rw [makeItem, if_neg hle, Int.toNat_natCast]

/-- No index of a range is refused. -/
theorem mapM_makeItem (n : Nat) (shape : Shape) :
    (List.range n).mapM (fun i : Nat => makeItem i shape) = .ok (firstItems n shape) := by
  have hall (is : List Nat) : is.mapM (fun i : Nat => makeItem i shape) = .ok (is.map fun i => itemAt i shape) := by
    induction is with
    | nil => rfl
    | cons i is ih =>
      rw [List.mapM_cons, makeItem_natCast, ih]
      rfl
  exact hall (List.range n)

theorem length_firstItems (n : Nat) (shape : Shape) : (firstItems n shape).length = n := by
  rw [firstItems, List.length_map, List.length_range]

theorem getElem?_firstItems {i n : Nat} (hi : i < n) (shape : Shape) :
    (firstItems n shape)[i]? = some (itemAt i shape) := by
  rw [firstItems, List.getElem?_map, List.getElem?_range hi]
  rfl

/-- A shorter range begins a longer one. -/
theorem firstItems_prefix {m n : Nat} (hmn : m ≤ n) (shape : Shape) : firstItems m shape <+: firstItems n shape := by
  obtain ⟨k, rfl⟩ : ∃ k, n = m + k := ⟨n - m, by omega⟩
  rw [firstItems, firstItems, List.range_add, List.map_append]
  exact List.prefix_append _ _

theorem generateRange_name (n : Nat) (shape : Shape) : generateRange n shape.name = .ok (firstItems n shape) := by
  have hle : ¬ (n : Int) < 0 := by omega
  rw [generateRange, if_neg hle, Shape.ofName?_name, Int.toNat_natCast]

/-! ## The command -/

namespace CommandLine

theorem items_nonneg_of_set {o o' : GenerateOptions} {given : GenerateOption × String} (h : 0 ≤ o.items)
    (hset : o.set given = .ok o') : 0 ≤ o'.items := by
  obtain ⟨option, text⟩ := given
  cases option with
  | items =>
    obtain ⟨n, hn, rfl⟩ := exists_of_map_ok hset
    exact le_of_readCount hn
  | shape =>
    obtain ⟨shape, _, rfl⟩ := exists_of_map_ok hset
    exact h
  | help =>
    obtain rfl := Except.ok.inj hset
    exact h

/-- The number of items that has been read is not negative. -/
theorem items_nonneg_of_read {words : List String} {o : GenerateOptions}
    (h : Command.read words = .ok (.generate o)) : 0 ≤ o.items := by
  have hgroup (option : GroupOption) : Command.ofGroupOption option ≠ .generate o := by
    cases option <;> simp [Command.ofGroupOption]
  unfold Command.read at h
  obtain ⟨scanned, _, h⟩ := exists_of_bind_ok h
  split at h
  case h_1 option _ _ _ => exact absurd (Except.ok.inj h) (hgroup option)
  case h_2 => cases h
  case h_3 =>
    rcases exists_options_of_readWith h with hhelp | ⟨_, _, _, hcommand⟩
    · cases hhelp
    · cases hcommand
  case h_4 =>
    rcases exists_options_of_readWith h with hhelp | ⟨_, _, _, hcommand⟩
    · cases hhelp
    · cases hcommand
  case h_5 =>
    rcases exists_options_of_readWith h with hhelp | ⟨given, read, hread, hcommand⟩
    · cases hhelp
    · obtain rfl := Command.generate.inj hcommand
      exact of_foldlM_ok items_nonneg_of_set given (by decide) hread
  case h_6 =>
    -- a word that names no command may still be an option
    obtain ⟨again, _, h⟩ := exists_of_bind_ok h
    split at h
    case h_1 option _ _ _ => exact absurd (Except.ok.inj h) (hgroup option)
    case h_2 => cases h

/-- What the command prints: the items of a range, one to a line, and nothing else. -/
theorem execute_generate {s : Surroundings} {words : List String} {o : GenerateOptions}
    (hinterrupt : s.interrupt ≠ some .program) (hread : Command.read words = .ok (.generate o)) :
    ∃ items, generateRange o.items o.shape.name = .ok items ∧
      execute s words = ⟨none, Written.printed { files := s.files } (items.map fun i => i.toJson.write)⟩ := by
  obtain ⟨n, hn⟩ : ∃ n : Nat, o.items = n := ⟨o.items.toNat, by have := items_nonneg_of_read hread; omega⟩
  refine ⟨firstItems n o.shape, ?_, ?_⟩
  · rw [hn]
    exact generateRange_name n o.shape
  · have hrun : ExceptT.run (perform s words) { files := s.files } =
        (.ok (), Written.printed { files := s.files }
          ((firstItems o.items.toNat o.shape).map fun i => i.toJson.write)) := by
      rw [perform, if_neg hinterrupt, hread]
      rfl
    rw [execute, hrun, hn, Int.toNat_natCast]

end CommandLine

/-! ## Survival -/

open CommandLine

/-- **Generated items survive their written form.** A range of a known shape can always be made. It holds the items of
    its indices, each what its data is validated to, and begins with every shorter range. Each item is printed on a line
    of its own, which makes the item again. Before the first index there is no item, and only the index is complained
    of. -/
theorem generateRange_survives (n : Nat) (shape : Shape) :
    ∃ items, generateRange n shape.name = .ok items ∧ items.length = n ∧
      (List.range n).mapM (fun i : Nat => Item.validate (.dict (itemValues i shape))) = .ok items ∧
      (∀ i < n, ∃ item, items[i]? = some item ∧ makeItem i shape = .ok item ∧ item.id = i ∧
        item.count.val = i % 100) ∧
      (∀ m ≤ n, ∃ first, generateRange m shape.name = .ok first ∧ first <+: items) ∧
      (∀ item ∈ items, Printable item.toJson.write.toList ∧
        ∃ j, Json.read? item.toJson.write = some j ∧ Item.validate (Datum.ofJson j) = .ok item) ∧
      (∀ s words o, s.interrupt ≠ some .program → Command.read words = .ok (.generate o) → o.items = n →
        o.shape = shape → execute s words =
          ⟨none, { output := String.join (items.map fun i => i.toJson.write ++ "\n"), files := s.files }⟩) ∧
      ∀ i < 0, makeItem i shape = Item.validate (.dict (itemValues i shape)) ∧
        makeItem i shape = .error ⟨"TableItem", [⟨["id"], .below 0⟩]⟩ := by
  have hvalidated : (List.range n).mapM (fun i : Nat => Item.validate (.dict (itemValues i shape))) =
      .ok (firstItems n shape) := by
    rw [← mapM_makeItem n shape]
    exact congrArg (fun f : Nat → Except Invalid Item => (List.range n).mapM f)
      (funext fun i => (makeItem_eq_validate i shape).symm)
  refine ⟨firstItems n shape, generateRange_name n shape, length_firstItems n shape, hvalidated, ?_, ?_, ?_, ?_, ?_⟩
  · intro i hi
    exact ⟨itemAt i shape, getElem?_firstItems hi shape, makeItem_natCast i shape, rfl, rfl⟩
  · intro m hmn
    exact ⟨firstItems m shape, generateRange_name m shape, firstItems_prefix hmn shape⟩
  · intro item _
    exact ⟨Json.printable_write item.toJson, item.exists_read_toJson⟩
  · rintro s words o hinterrupt hread hitems rfl
    obtain ⟨items, hrange, hexecute⟩ := execute_generate hinterrupt hread
    rw [hitems, generateRange_name] at hrange
    obtain rfl := Except.ok.inj hrange
    rw [hexecute, Written.printed, List.map_map, String.empty_append]
    rfl
  · intro i hi
    exact ⟨makeItem_eq_validate i shape, if_pos hi⟩

/-- Three items with customers: the third of them, the first two, its line, the printed lines, and the index before the
    first. -/
theorem generateRange_survives_three : ∃ items, generateRange 3 "customer" = .ok items ∧
    (∃ item, items[2]? = some item ∧ makeItem 2 .customer = .ok item ∧ item.id = 2) ∧
    (∃ first, generateRange 2 "customer" = .ok first ∧ first <+: items) ∧
    (∃ j, Json.read? (itemAt 2 .customer).toJson.write = some j ∧
      Item.validate (Datum.ofJson j) = .ok (itemAt 2 .customer)) ∧
    (∀ s : Surroundings, s.interrupt = none → (execute s ["generate", "-n", "3"]).written.output =
      String.join (items.map fun i => i.toJson.write ++ "\n")) ∧
    makeItem (-1) .customer = .error ⟨"TableItem", [⟨["id"], .below 0⟩]⟩ := by
  obtain ⟨items, hrange, -, -, hitem, hprefix, hline, hprinted, hbefore⟩ := generateRange_survives 3 .customer
  obtain ⟨item, hget, hmake, hid, -⟩ := hitem 2 (by decide)
  have hthird : itemAt 2 .customer = item := Except.ok.inj ((makeItem_natCast 2 .customer).symm.trans hmake)
  refine ⟨items, hrange, ⟨item, hget, hmake, hid⟩, hprefix 2 (by decide), ?_, ?_, (hbefore (-1) (by decide)).2⟩
  · rw [hthird]
    exact (hline item (List.mem_of_getElem? hget)).2
  · intro s hs
    have hinterrupt : s.interrupt ≠ some .program := by
      rw [hs]
      decide
    have hread : Command.read ["generate", "-n", "3"] = .ok (.generate { items := 3 }) := by
      decide +kernel
    rw [hprinted s _ _ hinterrupt hread rfl rfl]

end RenderBench
