import Amend.Diff.Matching
import Amend.Text.Lines

/-!
# Unified diffs

The differences of two texts, with three lines of context around each.  Differences that are less
than twice that far apart share a hunk.  Lines keep their own ends, so a last line without one runs
into what follows it.
-/

namespace Amend.Diff

/-- What happens to a part of the first text. -/
inductive Change where
  | keep
  | replace
  deriving DecidableEq, Repr, Inhabited

/-- A part of the first text and the part of the second that stands for it. -/
structure Step where
  change : Change
  leftFrom : Nat
  leftTo : Nat
  rightFrom : Nat
  rightTo : Nat
  deriving DecidableEq, Repr, Inhabited

/-- The lines of context around a difference. -/
def context : Nat := 3

/-- The steps from a pair of places on; `stop` is the end of both texts. -/
def stepsFrom (i j : Nat) (stop : Nat × Nat) : List Block → List Step
  | [] => if i < stop.1 || j < stop.2 then [⟨.replace, i, stop.1, j, stop.2⟩] else []
  | b :: bs =>
    let gap := if i < b.left || j < b.right then [⟨.replace, i, b.left, j, b.right⟩] else []
    gap ++ ⟨.keep, b.left, b.left + b.size, b.right, b.right + b.size⟩ ::
      stepsFrom (b.left + b.size) (b.right + b.size) stop bs

/-- The steps that lead from the first text to the second. -/
def steps (p : Pair) : List Step := stepsFrom 0 0 (p.left.size, p.right.size) (blocks p)

/-- The last lines of a part that is kept. -/
def Step.tail (s : Step) : Step :=
  { s with leftFrom := max s.leftFrom (s.leftTo - context)
           rightFrom := max s.rightFrom (s.rightTo - context) }

/-- The first lines of a part that is kept. -/
def Step.head (s : Step) : Step :=
  { s with leftTo := min s.leftTo (s.leftFrom + context)
           rightTo := min s.rightTo (s.rightFrom + context) }

/-- Cuts what is kept before the first difference down to its context. -/
def trimFirst : List Step → List Step
  | [] => []
  | s :: ss => (if s.change = .keep then s.tail else s) :: ss

/-- Cuts what is kept after the last difference down to its context. -/
def trimLast (ss : List Step) : List Step :=
  match ss.reverse with
  | [] => []
  | s :: rest => ((if s.change = .keep then s.head else s) :: rest).reverse

/-- Cuts the steps into hunks where much is kept; `hunk` holds the present one. -/
def hunksFrom (hunk : List Step) : List Step → List (List Step)
  | [] => [hunk]
  | s :: ss =>
    if s.change = .keep && 2 * context < s.leftTo - s.leftFrom then
      (hunk ++ [s.head]) :: hunksFrom [s.tail] ss
    else hunksFrom (hunk ++ [s]) ss

/-- The hunks of the steps: those that hold a difference. -/
def hunks (ss : List Step) : List (List Step) :=
  (hunksFrom [] (trimLast (trimFirst ss))).filter fun hunk => hunk.any (·.change ≠ .keep)

/-- The lines from one number to another: the first and how many, unless it is one. -/
def lineRange (start stop : Nat) : Text :=
  if stop - start = 1 then Text.ofNat (start + 1)
  else if stop - start = 0 then Text.ofNat start ++ (",0" : Text)
  else Text.ofNat (start + 1) ++ ',' :: Text.ofNat (stop - start)

/-- The heading of a hunk. -/
def hunkHeading (hunk : List Step) : Text :=
  match hunk.head?, hunk.getLast? with
  | some first, some last =>
    ("@@ -" : Text) ++ lineRange first.leftFrom last.leftTo ++ (" +" : Text) ++
      lineRange first.rightFrom last.rightTo ++ (" @@\n" : Text)
  | _, _ => []

/-- Lines of a text, each after a mark. -/
def marked (mark : Char) (lines : Array Text) (start stop : Nat) : Text :=
  (lines.extract start stop).toList.flatMap fun line => mark :: line

/-- The lines of a step. -/
def stepText (p : Pair) (s : Step) : Text :=
  match s.change with
  | .keep => marked ' ' p.left s.leftFrom s.leftTo
  | .replace => marked '-' p.left s.leftFrom s.leftTo ++ marked '+' p.right s.rightFrom s.rightTo

/-- The unified diff of two versions of a file; nothing if they are the same. -/
def unified (file before after : Text) : Text :=
  let p : Pair := ⟨before.splitLinesWithEnds.toArray, after.splitLinesWithEnds.toArray⟩
  match hunks (steps p) with
  | [] => []
  | hs =>
    ("--- " : Text) ++ file ++ ("\n+++ " : Text) ++ file ++ '\n' ::
      hs.flatMap fun hunk => hunkHeading hunk ++ hunk.flatMap (stepText p)

end Amend.Diff
