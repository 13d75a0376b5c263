import Amend.Text.Basic

/-!
# Matching lines of two texts

The lines that two versions of a text have in common, found by their longest common blocks: first
the longest run of lines that stands in both, then the same on either side of it.  Of several
longest runs the first is taken.

In a long text, lines that occur very often, such as blank ones, do not start a block; they only
lengthen one.
-/

namespace Amend.Diff

/-- A run of lines that stands in both texts. -/
structure Block where
  /-- Where the run starts in the first text. -/
  left : Nat
  /-- Where it starts in the second text. -/
  right : Nat
  size : Nat
  deriving DecidableEq, Repr, Inhabited

/-- Parts of both texts in which common lines are looked for. -/
structure Window where
  leftFrom : Nat
  leftTo : Nat
  rightFrom : Nat
  rightTo : Nat
  deriving DecidableEq, Repr, Inhabited

/-- Two texts by lines. -/
structure Pair where
  left : Array Text
  right : Array Text
  deriving Inhabited

namespace Pair

/-- The length from which on frequent lines of the second text are left aside. -/
def longText : Nat := 200

/-- Does a line occur too often to start a block? -/
def isFrequent (p : Pair) (places : List Nat) : Bool :=
  longText ≤ p.right.size && p.right.size / 100 + 1 < places.length

/-- The places of the second text where a line stands, in order; none if the line is frequent. -/
def places (p : Pair) (line : Text) : List Nat :=
  let all := (List.range p.right.size).filter fun j => p.right[j]? == some line
  if p.isFrequent all then [] else all

/-- The places in the second text of each line of the first. -/
def index (p : Pair) : Array (List Nat) := p.left.map p.places

/-- Are two lines the same? -/
def same (p : Pair) (i j : Nat) : Bool :=
  match p.left[i]?, p.right[j]? with
  | some a, some b => a == b
  | _, _ => false

end Pair

/-- The search for the longest run, line by line of the first text: the best run so far, and the
length of the run that ends at the last line read, for each of its places in the second text. -/
structure Search where
  best : Block
  runs : List (Nat × Nat) := []
  deriving Inhabited

namespace Search

/-- The length of the run that ends at a place. -/
def runAt (s : Search) (j : Nat) : Nat := (s.runs.lookup j).getD 0

/-- The length of the run that the line at a place continues. -/
def runBefore (s : Search) : Nat → Nat
  | 0 => 0
  | j + 1 => s.runAt j

/-- Reads one line of the first text, which stands at the given places of the second. -/
def step (w : Window) (places : List Nat) (i : Nat) (s : Search) : Search :=
  let places := places.filter fun j => w.rightFrom ≤ j && j < w.rightTo
  let runs := places.map fun j => (j, s.runBefore j + 1)
  let best := runs.foldl (fun best (j, k) =>
      if best.size < k then ⟨i + 1 - k, j + 1 - k, k⟩ else best) s.best
  { best, runs }

end Search

/-- Lengthens a run backwards as long as the lines before it are the same. -/
def growBack (p : Pair) (w : Window) : (fuel : Nat) → Block → Block
  | 0, b => b
  | fuel + 1, b =>
    if w.leftFrom < b.left && w.rightFrom < b.right && p.same (b.left - 1) (b.right - 1) then
      growBack p w fuel ⟨b.left - 1, b.right - 1, b.size + 1⟩
    else b

/-- Lengthens a run forwards as long as the lines after it are the same. -/
def growOn (p : Pair) (w : Window) : (fuel : Nat) → Block → Block
  | 0, b => b
  | fuel + 1, b =>
    if b.left + b.size < w.leftTo && b.right + b.size < w.rightTo &&
        p.same (b.left + b.size) (b.right + b.size) then
      growOn p w fuel { b with size := b.size + 1 }
    else b

/-- The longest common run in a window, which may be empty. -/
def longest (p : Pair) (index : Array (List Nat)) (w : Window) : Block :=
  let start : Search := { best := ⟨w.leftFrom, w.rightFrom, 0⟩ }
  let found := (List.range' w.leftFrom (w.leftTo - w.leftFrom)).foldl
    (fun s i => s.step w (index[i]?.getD []) i) start
  growOn p w p.left.size (growBack p w p.left.size found.best)

/-- The common runs in a window, in order.  Every run leaves smaller windows on its sides, so as
many steps as the first text has lines suffice. -/
def blocksIn (p : Pair) (index : Array (List Nat)) : (fuel : Nat) → Window → List Block
  | 0, _ => []
  | fuel + 1, w =>
    let b := longest p index w
    if b.size = 0 then []
    else
      let before :=
        if w.leftFrom < b.left && w.rightFrom < b.right then
          blocksIn p index fuel ⟨w.leftFrom, b.left, w.rightFrom, b.right⟩
        else []
      let after :=
        if b.left + b.size < w.leftTo && b.right + b.size < w.rightTo then
          blocksIn p index fuel ⟨b.left + b.size, w.leftTo, b.right + b.size, w.rightTo⟩
        else []
      before ++ b :: after

/-- Puts runs together that follow each other in both texts. -/
def joinBlocks : List Block → List Block
  | [] => []
  | b :: bs =>
    match joinBlocks bs with
    | [] => [b]
    | next :: rest =>
      if b.left + b.size = next.left && b.right + b.size = next.right then
        ⟨b.left, b.right, b.size + next.size⟩ :: rest
      else b :: next :: rest

/-- The common runs of two texts, in order. -/
def blocks (p : Pair) : List Block :=
  joinBlocks (blocksIn p p.index (p.left.size + 1) ⟨0, p.left.size, 0, p.right.size⟩)

end Amend.Diff
