/-!
# `Text.Blank` — white space and line ends

White space is every separator and every control character that moves the position: tab, line ends,
the four information separators, the spaces of all scripts. Where the separators do not count it is called spacing.
A file that is read as text may end its lines in a line feed, in a carriage return or in both; what is read has line
feeds only.
-/

namespace RenderBench

/-- Whether a character is white space. -/
def isBlank (c : Char) : Bool :=
  let n := c.toNat
  (0x09 ≤ n && n ≤ 0x0d) || (0x1c ≤ n && n ≤ 0x20) || n == 0x85 || n == 0xa0 || n == 0x1680 ||
  (0x2000 ≤ n && n ≤ 0x200a) || n == 0x2028 || n == 0x2029 || n == 0x202f || n == 0x205f ||
  n == 0x3000

/-- White space without the four information separators. -/
def isSpacing (c : Char) : Bool := isBlank c && !(0x1c ≤ c.toNat && c.toNat ≤ 0x1f)

/-- The characters after the white space at the front. -/
def stripFront (cs : List Char) : List Char := cs.dropWhile isBlank

/-- The characters without the white space at the end. -/
def stripBack (cs : List Char) : List Char := (cs.reverse.dropWhile isBlank).reverse

/-- The characters without white space at either end. -/
def stripChars (cs : List Char) : List Char := stripBack (stripFront cs)

/-- The characters without spacing at either end. -/
def trimChars (cs : List Char) : List Char := ((cs.dropWhile isSpacing).reverse.dropWhile isSpacing).reverse

/-- A text without white space at either end. -/
def strip (s : String) : String := String.ofList (stripChars s.toList)

/-- Every kind of line end as a line feed. -/
def unifyLines : List Char → List Char
  | [] => []
  | '\r' :: '\n' :: cs => '\n' :: unifyLines cs
  | '\r' :: cs => '\n' :: unifyLines cs
  | c :: cs => c :: unifyLines cs

end RenderBench
