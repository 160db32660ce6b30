import RenderBench.Proofs.Template.Reading
import RenderBench.Proofs.Template.Same
import RenderBench.Template.Basic

/-!
# `Proofs.Page.Document` — the page that tables are rendered with

The page comes with the program as a file. Its text is read here once, by computation, as the document that
it is; everything else that is said about the page is said about the document.

## Contents
- `pageSource`, `pageDocument`: the text of the page, and the document.
- `ofText_pageSource`: the one is read as the other.
- `load_page`: the file of that text is loaded under its name wherever it lies.
-/

namespace RenderBench

open RenderBench.Template (Expr Piece Stmt Block Document lexemes lexemesOf parseStatements isMarkupName
  templatePath?_name readDocument_text)

/-! ## The text -/

/-- The file's name. -/
def pageName : String := "List.html"

/-- The file's text. -/
def pageSource : String := "<!DOCTYPE html>
<html lang=\"en\">
<head>
  <meta charset=\"utf-8\">
  <title>Items</title>
</head>
<body>
\x7b% block table %\x7d
<table>
  <thead>
    <tr>
      <th>Id</th><th>Name</th><th>Valid</th><th>Description</th><th>Count</th><th>Price</th>
      <th>Customer</th><th>Address</th><th>City</th><th>Zip</th><th>E-Mail</th><th>Phone</th>
    </tr>
  </thead>
  <tbody>
  \x7b% for item in items %\x7d
    <tr>
      <td>\x7b\x7b item.id \x7d\x7d</td>
      <td>\x7b\x7b item.name \x7d\x7d</td>
      <td>\x7b% if item.valid %\x7dyes\x7b% else %\x7dno\x7b% endif %\x7d</td>
      <td>\x7b\x7b item.description \x7d\x7d</td>
      <td>\x7b\x7b item.count \x7d\x7d</td>
      <td>\x7b\x7b item.price \x7d\x7d</td>
      \x7b% if item.customer %\x7d
      <td>\x7b\x7b item.customer.name \x7d\x7d</td>
      <td>\x7b\x7b item.customer.address \x7d\x7d</td>
      <td>\x7b\x7b item.customer.city \x7d\x7d</td>
      <td>\x7b\x7b item.customer.zip \x7d\x7d</td>
      <td><a href=\"mailto:\x7b\x7b item.customer.email \x7d\x7d\">\x7b\x7b item.customer.email \x7d\x7d</a></td>
      <td>\x7b\x7b item.customer.phone \x7d\x7d</td>
      \x7b% else %\x7d
      <td colspan=\"6\"></td>
      \x7b% endif %\x7d
    </tr>
  \x7b% endfor %\x7d
  </tbody>
</table>
\x7b% endblock %\x7d
</body>
</html>
"

/-! ## The document -/

/-- The item that a row is for, and the members of it that the row shows. -/
def itemField (name : String) : Expr := .attribute (.name "item") name

def customerField (name : String) : Expr := .attribute (itemField "customer") name

def headText : String := "
<table>
  <thead>
    <tr>
      <th>Id</th><th>Name</th><th>Valid</th><th>Description</th><th>Count</th><th>Price</th>
      <th>Customer</th><th>Address</th><th>City</th><th>Zip</th><th>E-Mail</th><th>Phone</th>
    </tr>
  </thead>
  <tbody>
  "

def footText : String := "
  </tbody>
</table>
"

def customerPieces : List Piece :=
  [.text "\n      <td>", .value (customerField "name"),
    .text "</td>\n      <td>", .value (customerField "address"),
    .text "</td>\n      <td>", .value (customerField "city"),
    .text "</td>\n      <td>", .value (customerField "zip"),
    .text "</td>\n      <td><a href=\"mailto:", .value (customerField "email"),
    .text "\">", .value (customerField "email"),
    .text "</a></td>\n      <td>", .value (customerField "phone"), .text "</td>\n      "]

def noCustomerText : String := "\n      <td colspan=\"6\"></td>\n      "

def rowBody : List Stmt :=
  [.output [.text "\n    <tr>\n      <td>", .value (itemField "id"),
      .text "</td>\n      <td>", .value (itemField "name"), .text "</td>\n      <td>"],
    .branch (itemField "valid") [.output [.text "yes"]] [.output [.text "no"]],
    .output [.text "</td>\n      <td>", .value (itemField "description"),
      .text "</td>\n      <td>", .value (itemField "count"),
      .text "</td>\n      <td>", .value (itemField "price"), .text "</td>\n      "],
    .branch (itemField "customer") [.output customerPieces] [.output [.text noCustomerText]],
    .output [.text "\n    </tr>\n  "]]

def tableBlock : Block where
  name := "table"
  line := 8
  withLocals := false
  required := false
  body :=
    [.output [.text headText],
      .forLoop (.name 17 "item") (.name "items") none false rowBody [],
      .output [.text footText]]

def pageDocument : Document where
  name := some pageName
  escape := true
  body :=
    [.output [.text "<!DOCTYPE html>
<html lang=\"en\">
<head>
  <meta charset=\"utf-8\">
  <title>Items</title>
</head>
<body>
"],
      .block tableBlock.line tableBlock.name tableBlock.withLocals tableBlock.required tableBlock.body,
      .output [.text "\n</body>\n</html>"]]
  blocks := [tableBlock]

/-! ## Reading -/

/-- Whether the characters of a text are read as the page's document. -/
def readsAsPage (cs : List Char) : Bool :=
  match parseStatements (lexemesOf cs) with
  | .error _ => false
  | .ok statements =>
    match Document.ofStatements (some pageName) true statements with
    | .error _ => false
    | .ok d => d.same pageDocument

theorem ofText_of_readsAsPage {cs : List Char} (h : readsAsPage cs) :
    Document.ofText (some pageName) true (String.ofList cs) = .ok pageDocument := by
  unfold readsAsPage at h
  split at h
  · cases h
  · rename_i statements hparse
    split at h
    · cases h
    · rename_i d hdocument
      rw [Document.ofText, lexemes, String.toList_ofList, hparse]
      show Document.ofStatements (some pageName) true statements = _
      rw [hdocument, Document.eq_of_same h]

set_option maxRecDepth 10000 in
/-- The text of the page is read as its document. The characters of the text are never computed from it: the
    text is a literal, and the characters are what the literal stands for. -/
theorem ofText_pageSource : Document.ofText (some pageName) true pageSource = .ok pageDocument := by
  obtain ⟨cs, hsource, hreads⟩ : ∃ cs, pageSource = String.ofList cs ∧ readsAsPage cs = true :=
    ⟨_, rfl, by decide +kernel⟩
  rw [hsource, ofText_of_readsAsPage hreads]

/-! ## Loading -/

/-- **The page is loaded under its name, wherever it lies.** -/
theorem load_page {files : FileStore} {path : String} (hname : (FilePath.ofString path).name = pageName)
    (hfile : files.readFile? (FilePath.ofString path) = some (encodeUtf8 pageSource.toList)) :
    Template.load files path = .ok
      { name := pageName
        document := pageDocument
        files
        directory := (FilePath.ofString path).parent } := by
  have hinside : pageName ≠ ".." := by decide +kernel
  have hmarkup : isMarkupName pageName = true := by decide +kernel
  have hpath := templatePath?_name path (hname ▸ hinside)
  have hread := readDocument_text hpath hfile
  rw [hname, hmarkup, ofText_pageSource] at hread
  rw [Template.load, hname, hread]
  rfl

end RenderBench
