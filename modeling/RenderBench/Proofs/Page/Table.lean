import RenderBench.Proofs.Page.Document
import RenderBench.Proofs.Template.Sink
import RenderBench.Proofs.Template.Writing
import RenderBench.Proofs.Text.Occurrences

/-!
# `Proofs.Page.Table` — what the page makes of items

The table is a head, one row for each item in order, and a foot. A row is the same markup for all items but
for the cells of the customer, and the item's fields are data in it.

## Contents
- `customerCells`, `tableRow`, `tablePage`: the table as markup and data.
- `writes_rowBody`: the row of an item.
- `render_table`: the table of a list of items.
-/

namespace RenderBench

open RenderBench.Template

/-! ## The table -/

/-- The cells of an item's customer; without a customer they are one cell. -/
def customerCells : Option Customer → List Segment
  | some c =>
    [.markup "\n      <td>", .data c.name,
      .markup "</td>\n      <td>", .data c.address,
      .markup "</td>\n      <td>", .data c.city,
      .markup "</td>\n      <td>", .data c.zip,
      .markup "</td>\n      <td><a href=\"mailto:", .data c.email,
      .markup "\">", .data c.email,
      .markup "</a></td>\n      <td>", .data c.phone, .markup "</td>\n      "]
  | none => [.markup noCustomerText]

/-- The row of an item. -/
def tableRow (i : Item) : List Segment :=
  [.markup "\n    <tr>\n      <td>", .data (intText i.id),
    .markup "</td>\n      <td>", .data i.name, .markup "</td>\n      <td>"] ++
  [.markup (if i.valid then "yes" else "no")] ++
  [.markup "</td>\n      <td>", .data i.description,
    .markup "</td>\n      <td>", .data (intText i.count.val),
    .markup "</td>\n      <td>", .data i.price.text, .markup "</td>\n      "] ++
  customerCells i.customer ++ [.markup "\n    </tr>\n  "]

/-- The table of items. -/
def tablePage (items : List Item) : List Segment :=
  [.markup headText] ++ items.flatMap tableRow ++ [.markup footText]

/-! ## Rows -/

variable {m : Machine} {s : Scope} {i : Item} {c : Customer}

/-- What rendering the row of an item depends on: the output is escaped, and the item has its name. -/
structure RowScope (s : Scope) (i : Item) : Prop where
  escape : s.escape = true
  parent : s.parent = none
  item : s.lookup "item" = .item i

namespace RowScope

theorem evaluate_itemField (h : RowScope s i) (name : String) {v : Value}
    (hfield : memberOf (.item i) name = .ok v) : evaluate m s (itemField name) = .ok v := by
  rw [itemField, evaluate, evaluate, h.item]
  exact hfield

theorem evaluate_customer (h : RowScope s i) :
    evaluate m s (itemField "customer") = .ok (.ofCustomer i.customer) :=
  h.evaluate_itemField "customer" rfl

/-- A field of the item that is not markup is written as data. -/
theorem writes_itemField (h : RowScope s i) (name : String) {v : Value}
    (hfield : memberOf (.item i) name = .ok v) (hdata : v.escaped = escapeText v.display) :
    Piece.Writes m s (.value (itemField name)) (Segment.data v.display).text := by
  have hwritten : v.written s.escape = (Segment.data v.display).text := by
    rw [h.escape]
    exact hdata
  rw [← hwritten]
  exact Piece.Writes.value rfl (h.evaluate_itemField name hfield)

theorem writes_customerField (h : RowScope s i) (hc : i.customer = some c) {name value : String}
    (hfield : memberOf (.customer c) name = .ok (.text value)) :
    Piece.Writes m s (.value (customerField name)) (Segment.data value).text := by
  have hvalue : evaluate m s (customerField name) = .ok (.text value) := by
    rw [customerField, evaluate, h.evaluate_customer, hc]
    exact hfield
  have hwritten : (Value.text value).written s.escape = (Segment.data value).text := by
    rw [h.escape]
    rfl
  rw [← hwritten]
  exact Piece.Writes.value rfl hvalue

theorem writes_customerPieces (h : RowScope s i) (hc : i.customer = some c) :
    (execute m s (.output customerPieces)).Writes (pageText (customerCells (some c))) s :=
  writes_output h.parent <|
    writes_cell _ (h.writes_customerField hc rfl) <|
    writes_cell _ (h.writes_customerField hc rfl) <|
    writes_cell _ (h.writes_customerField hc rfl) <|
    writes_cell _ (h.writes_customerField hc rfl) <|
    writes_cell _ (h.writes_customerField hc rfl) <|
    writes_cell _ (h.writes_customerField hc rfl) <|
    writes_cell _ (h.writes_customerField hc rfl) <| writes_last _

/-- The cells of the customer are chosen by whether there is one: a customer counts as true whatever its
    texts are. -/
theorem writes_customerCells (h : RowScope s i) :
    (execute m s (.branch (itemField "customer") [.output customerPieces]
      [.output [.text noCustomerText]])).Writes (pageText (customerCells i.customer)) s := by
  have htest := h.evaluate_customer (m := m)
  cases hc : i.customer with
  | none =>
    rw [hc] at htest
    have hcell := writes_output (m := m) h.parent (writes_last noCustomerText)
    exact writes_branch htest (writes_single hcell)
  | some c =>
    rw [hc] at htest
    have hcells := h.writes_customerPieces (m := m) hc
    exact writes_branch htest (writes_single hcells)

theorem writes_valid (h : RowScope s i) :
    (execute m s (.branch (itemField "valid") [.output [.text "yes"]] [.output [.text "no"]])).Writes
      (pageText [.markup (if i.valid then "yes" else "no")]) s := by
  refine writes_branch (v := .bool i.valid) (h.evaluate_itemField "valid" rfl) ?_
  show (executeAll m s (if i.valid then _ else _)).Writes _ s
  cases i.valid with
  | true => exact writes_single (writes_output h.parent (writes_last "yes"))
  | false => exact writes_single (writes_output h.parent (writes_last "no"))

/-- **The row of an item.** -/
theorem writes_rowBody (h : RowScope s i) :
    (executeAll m s rowBody).Writes (pageText (tableRow i)) s := by
  -- no field is markup, as its value's constructor shows, and so each is written as data
  have hstart := writes_output (m := m) h.parent <|
    writes_cell "\n    <tr>\n      <td>" (h.writes_itemField "id" rfl rfl) <|
    writes_cell "</td>\n      <td>" (h.writes_itemField "name" rfl rfl) <|
    writes_last "</td>\n      <td>"
  have hmiddle := writes_output (m := m) h.parent <|
    writes_cell "</td>\n      <td>" (h.writes_itemField "description" rfl rfl) <|
    writes_cell "</td>\n      <td>" (h.writes_itemField "count" rfl rfl) <|
    writes_cell "</td>\n      <td>" (h.writes_itemField "price" rfl rfl) <|
    writes_last "</td>\n      "
  have hend := writes_output (m := m) h.parent (writes_last "\n    </tr>\n  ")
  have hrow := writes_cons hstart <| writes_cons h.writes_valid <| writes_cons hmiddle <|
    writes_cons h.writes_customerCells <| writes_single hend
  simp only [tableRow, pageText_append, String.append_assoc]
  exact hrow

end RowScope

/-! ## The rendering -/

/-- A sub-template whose rendering writes a text is rendered to that text. -/
theorem render_of_writes {t : Template} {b : Block} {name text : String} {items : Value}
    (hfind : (t.document.blocks.find? fun b => b.name == name) = some b)
    (h : (t.trace b items).Writes text ()) : t.render name items = .ok text := by
  rw [render_eq, Template.course, hfind]
  show ((t.trace b items).result.mapError _).map _ = _
  rw [h.result]
  exact congrArg Except.ok h.chunks

/-- The rows of items, one after the other. -/
def rowsText (items : List Item) : String := String.join (items.map fun i => pageText (tableRow i))

theorem rowsText_append (xs ys : List Item) : rowsText (xs ++ ys) = rowsText xs ++ rowsText ys := by
  rw [rowsText, List.map_append, String.join_append, ← rowsText, ← rowsText]

theorem pageText_tablePage (items : List Item) :
    pageText (tablePage items) = headText ++ rowsText items ++ footText := by
  rw [tablePage, pageText_append, pageText_append, pageText_markup, pageText_markup, pageText_flatMap,
    ← rowsText]

theorem writes_tableBody {items : List Item} (hescape : s.escape = true) (hparent : s.parent = none)
    (hitems : s.lookup "items" = .list (items.map .item)) :
    (executeAll m s tableBlock.body).Writes (pageText (tablePage items)) s := by
  have hhead := writes_text (m := m) headText hparent
  have hfoot := writes_text (m := m) footText hparent
  have hrows : (execute m s (.forLoop (.name 17 "item") (.name "items") none false rowBody [])).Writes
      (rowsText items) s := by
    refine writes_forLoop (by rw [evaluate, hitems]) rfl fun i _ => ?_
    have hscope : RowScope (s.inside [("item", .item i)]) i := ⟨hescape, hparent, rfl⟩
    exact ⟨_, hscope.writes_rowBody⟩
  rw [pageText_tablePage, String.append_assoc]
  exact writes_cons hhead <| writes_cons hrows <| writes_single hfoot

/-- **The table of items**, whatever the items are. -/
theorem render_table (files : FileStore) (directory : FilePath) (items : List Item) :
    Template.render ⟨pageName, pageDocument, files, directory⟩ "table" (.list (items.map .item)) =
      .ok (pageText (tablePage items)) := by
  have hbody := writes_tableBody (m := machine (loadDocument files directory) 199)
    (s := (Scope.ofDocument pageDocument (Template.globals (.list (items.map .item)))).forBlock
      ⟨tableBlock, some pageName, true⟩ 0 (Template.globals (.list (items.map .item))))
    rfl rfl rfl
  exact render_of_writes (b := tableBlock) rfl hbody.discard

end RenderBench
