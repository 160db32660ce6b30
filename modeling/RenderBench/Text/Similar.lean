/-!
# `Text.Similar` — words that resemble a word

Two words resemble each other as far as they can be lined up: at the longest run they share, and in turn
on both sides of it. Twice the number of lined-up characters over the number of all characters is their
likeness, which is one for equal words.

## Contents
- `longestRun`: the longest run two texts share; of several the one that starts first.
- `matched`: the number of characters that can be lined up.
- `Likeness`, `Likeness.better`: how alike a word is.
- `similarWords`: the best three of the words that are alike enough.
-/

namespace RenderBench

/-- The number of characters that two texts have in common at their fronts. -/
def sharedStart : List Char → List Char → Nat
  | a :: as, b :: bs => if a = b then sharedStart as bs + 1 else 0
  | _, _ => 0

/-- A run that two texts share: where it starts in each, and its length. -/
structure SharedRun where
  first : Nat
  second : Nat
  length : Nat

/-- The longest shared run. It starts as early as possible in the first text, then in the second. -/
def longestRun (a b : List Char) : SharedRun :=
  let runs := (List.range a.length).flatMap fun i =>
    (List.range b.length).map fun j => ⟨i, j, sharedStart (a.drop i) (b.drop j)⟩
  runs.foldl (fun best r => if best.length < r.length then r else best) ⟨0, 0, 0⟩

/-- The number of lined-up characters; a run takes at least one character of the first text, so that its
    length is fuel enough. -/
def matchedWithin : Nat → List Char → List Char → Nat
  | 0, _, _ => 0
  | fuel + 1, a, b =>
    let r := longestRun a b
    if r.length = 0 then 0
    else
      matchedWithin fuel (a.take r.first) (b.take r.second) + r.length +
        matchedWithin fuel (a.drop (r.first + r.length)) (b.drop (r.second + r.length))

def matched (a b : List Char) : Nat := matchedWithin a.length a b

/-- A word with its likeness to another one, a fraction. -/
structure Likeness where
  word : String
  numerator : Nat
  denominator : Nat

def Likeness.of (word candidate : String) : Likeness where
  word := candidate
  numerator := 2 * matched candidate.toList word.toList
  denominator := candidate.length + word.length

/-- Words are alike from three fifths on. -/
def Likeness.enough (l : Likeness) : Bool := 3 * l.denominator ≤ 5 * l.numerator

/-- Whether one word goes before another: the more alike one, of equals the greater one. -/
def Likeness.better (l m : Likeness) : Bool :=
  let left := l.numerator * m.denominator
  let right := m.numerator * l.denominator
  right < left || (left == right && m.word ≤ l.word)

/-- Up to three of the candidates that are alike enough, the best first. -/
def similarWords (word : String) (candidates : List String) : List String :=
  (((candidates.map (Likeness.of word)).filter Likeness.enough).mergeSort Likeness.better).take 3
    |>.map Likeness.word

end RenderBench
