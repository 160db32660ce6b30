import RenderBench.Proofs.Page.Table

/-!
# `Proofs.Page.Rows` — every table has one row for each item

The markup of a row depends on whether the item is valid and whether it has a customer, and on nothing
else. So there are few rows as far as markup goes, and that each of their parts stands alone is seen by
looking at all of them; what is found in a table is then counted row by row.

## Contents
- `blankItem`, `markups_tableRow`: the rows as far as markup goes.
- `tableMarks`, `standsAlone_tablePage`: what is looked for.
- `occurrences_tableRow`, `occurrences_tablePage`: what is found in a row and in a table.
- `renders_every_table`: the page makes a table of every list of items.
-/

namespace RenderBench

/-! ## The markup of a row -/

/-- An item without texts and numbers. -/
def blankItem (valid hasCustomer : Bool) : Item where
  id := 0
  name := ""
  valid := valid
  description := ""
  count := 0
  price := .zero false
  customer := if hasCustomer then some ⟨"", "", "", "", "", ""⟩ else none

/-- **The markup of a row does not depend on the texts and numbers of its item.** -/
theorem markups_tableRow (i : Item) :
    markups (tableRow i) = markups (tableRow (blankItem i.valid i.customer.isSome)) := by
  obtain ⟨id, name, valid, description, count, price, customer⟩ := i
  cases customer with
  | none => rfl
  | some c => rfl

/-! ## What is looked for -/

/-- The tags of a row, and what marks a row without a customer. -/
def tableMarks : List String := ["<tr>", "</tr>", "colspan=\"6\""]

/-- How often a mark is in a row. -/
def marksOf (mark : String) (hasCustomer : Bool) : Nat :=
  if mark == "colspan=\"6\"" && hasCustomer then 0 else 1

theorem not_plain_of_mem_tableMarks : ∀ mark ∈ tableMarks, ¬Plain mark.toList := by decide +kernel

set_option maxRecDepth 10000 in
/-- As far as marks go the head is a row with a customer. -/
theorem headText_marks : ∀ mark ∈ tableMarks,
    StandsAlone mark.toList headText.toList ∧ occurrences mark headText = marksOf mark true := by
  obtain ⟨cs, hhead, hmarks⟩ : ∃ cs, headText = String.ofList cs ∧ ∀ mark ∈ tableMarks,
      StandsAlone mark.toList cs ∧ occurrencesIn mark.toList cs = marksOf mark true :=
    ⟨_, rfl, by decide +kernel⟩
  intro mark hmark
  rw [occurrences, hhead, String.toList_ofList]
  exact hmarks mark hmark

theorem footText_marks : ∀ mark ∈ tableMarks,
    StandsAlone mark.toList footText.toList ∧ occurrences mark footText = 0 := by
  decide +kernel

theorem blankRow_marks : ∀ mark ∈ tableMarks, ∀ valid hasCustomer,
    (∀ m ∈ markups (tableRow (blankItem valid hasCustomer)), StandsAlone mark.toList m.toList) ∧
      found mark (tableRow (blankItem valid hasCustomer)) = marksOf mark hasCustomer := by
  decide +kernel

variable {mark : String}

theorem standsAlone_tableRow (hmark : mark ∈ tableMarks) (i : Item) :
    ∀ m ∈ markups (tableRow i), StandsAlone mark.toList m.toList := by
  rw [markups_tableRow]
  exact (blankRow_marks mark hmark _ _).1

theorem found_tableRow (hmark : mark ∈ tableMarks) (i : Item) :
    found mark (tableRow i) = marksOf mark i.customer.isSome := by
  rw [found, markups_tableRow, ← found]
  exact (blankRow_marks mark hmark _ _).2

/-! ## What is found -/

/-- **Marks in a row** are those of its markup. -/
theorem occurrences_tableRow (hmark : mark ∈ tableMarks) (i : Item) :
    occurrences mark (pageText (tableRow i)) = marksOf mark i.customer.isSome := by
  rw [occurrences_pageText (not_plain_of_mem_tableMarks mark hmark) (standsAlone_tableRow hmark i),
    found_tableRow hmark]

theorem standsAlone_tablePage (hmark : mark ∈ tableMarks) (items : List Item) :
    ∀ m ∈ markups (tablePage items), StandsAlone mark.toList m.toList := by
  intro m hm
  rw [tablePage, markups_append, markups_append, markups_flatMap, List.mem_append, List.mem_append] at hm
  rcases hm with (hm | hm) | hm
  · obtain rfl := List.mem_singleton.mp hm
    exact (headText_marks mark hmark).1
  · obtain ⟨i, _, hi⟩ := List.mem_flatMap.mp hm
    exact standsAlone_tableRow hmark i m hi
  · obtain rfl := List.mem_singleton.mp hm
    exact (footText_marks mark hmark).1

/-- **Marks in a table:** those of the head and those of each row. -/
theorem occurrences_tablePage (hmark : mark ∈ tableMarks) (items : List Item) :
    occurrences mark (pageText (tablePage items)) =
      marksOf mark true + (items.map fun i => marksOf mark i.customer.isSome).sum := by
  have hrows : found mark (items.flatMap tableRow) =
      (items.map fun i => marksOf mark i.customer.isSome).sum := by
    rw [found_flatMap]
    simp only [found_tableRow hmark]
  rw [occurrences_pageText (not_plain_of_mem_tableMarks mark hmark) (standsAlone_tablePage hmark items),
    tablePage, found_append, found_append, found_markup, found_markup, hrows,
    (headText_marks mark hmark).2, (footText_marks mark hmark).2, Nat.add_zero]

/-! ## Tables -/

theorem sum_map_one (items : List Item) : (items.map fun _ => 1).sum = items.length := by
  rw [List.map_const', List.sum_replicate_nat, Nat.mul_one]

theorem sum_without_customer (items : List Item) :
    (items.map fun i => marksOf "colspan=\"6\"" i.customer.isSome).sum =
      items.countP fun i => i.customer.isNone := by
  induction items with
  | nil => rfl
  | cons i items ih =>
    rw [List.map_cons, List.sum_cons, ih, List.countP_cons]
    cases i.customer with
    | none => exact Nat.add_comm _ _
    | some c => exact Nat.zero_add _

/-- **The page makes a table of every list of items.** The file can be loaded wherever it lies, and the
    rendering of its table succeeds whatever the items are: it is the head, the rows of the items one after
    the other in their order, and the foot. There is one row more than there are items, the row of the
    head, and as many rows without the cells of a customer as there are items without one. Every item's
    row is one row by itself, whatever the texts in it are. -/
theorem renders_every_table (files : FileStore) (path : String)
    (hname : (FilePath.ofString path).name = pageName)
    (hfile : files.readFile? (FilePath.ofString path) = some (encodeUtf8 pageSource.toList)) :
    ∃ t, Template.load files path = .ok t ∧
      (∀ items : List Item, ∃ text, t.render "table" (.list (items.map .item)) = .ok text ∧
        occurrences "<tr>" text = items.length + 1 ∧
        occurrences "</tr>" text = items.length + 1 ∧
        occurrences "colspan=\"6\"" text = items.countP fun i => i.customer.isNone) ∧
      (∀ xs ys : List Item, t.render "table" (.list ((xs ++ ys).map .item)) =
        .ok (headText ++ (rowsText xs ++ rowsText ys) ++ footText)) ∧
      ∀ i : Item, occurrences "<tr>" (pageText (tableRow i)) = 1 ∧
        occurrences "</tr>" (pageText (tableRow i)) = 1 := by
  have hopen : "<tr>" ∈ tableMarks := by decide
  have hclose : "</tr>" ∈ tableMarks := by decide
  have hspan : "colspan=\"6\"" ∈ tableMarks := by decide
  refine ⟨_, load_page hname hfile, ?_, ?_, ?_⟩
  · -- what is found
    intro items
    refine ⟨_, render_table files _ items, ?_, ?_, ?_⟩
    · rw [occurrences_tablePage hopen, Nat.add_comm]
      exact congrArg (· + 1) (sum_map_one items)
    · rw [occurrences_tablePage hclose, Nat.add_comm]
      exact congrArg (· + 1) (sum_map_one items)
    · rw [occurrences_tablePage hspan, sum_without_customer]
      exact Nat.zero_add _
  · -- the order of the rows
    intro xs ys
    rw [render_table, pageText_tablePage, rowsText_append]
  · -- one row by itself
    intro i
    exact ⟨occurrences_tableRow hopen i, occurrences_tableRow hclose i⟩

/-- The page in its own directory. -/
def pageFiles : FileStore :=
  ⟨[(["work"], .directory), (["work", "templates"], .directory),
    (["work", "templates", pageName], .file (encodeUtf8 pageSource.toList))]⟩

/-- Items with and without a customer whose texts spell marks. -/
def markedItems : List Item :=
  [⟨0, "</tr><tr>", true, "", 0, .zero false, none⟩,
    ⟨1, "colspan=\"6\"", false, "", 99, .zero true, some ⟨"", "", "", "", "<tr>", "</tr>"⟩⟩]

theorem renders_marked_items :
    ∃ t, Template.load pageFiles "templates/List.html" = .ok t ∧
      ∃ text, t.render "table" (.list (markedItems.map .item)) = .ok text ∧
        occurrences "<tr>" text = 3 ∧ occurrences "</tr>" text = 3 ∧
        occurrences "colspan=\"6\"" text = 1 := by
  have hpath : FilePath.ofString "templates/List.html" = ⟨"", ["templates", pageName]⟩ := by
    decide +kernel
  have hfile : pageFiles.readFile? ⟨"", ["templates", pageName]⟩ =
      some (encodeUtf8 pageSource.toList) := rfl
  obtain ⟨t, hload, htables, _⟩ := renders_every_table pageFiles "templates/List.html"
    (by rw [hpath]; rfl) (by rw [hpath, hfile])
  obtain ⟨text, htext, hopen, hclose, hspan⟩ := htables markedItems
  exact ⟨t, hload, text, htext, hopen, hclose, hspan⟩

end RenderBench
