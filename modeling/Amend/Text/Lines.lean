import Amend.Text.Basic

/-!
# Lines at every boundary

`Text.lines` cuts at line feeds only.  Where text is shown or filtered line by line, every
character that some program takes for the end of a line is a boundary: line feed, return, the pair
of both, vertical tab, form feed, the separators U+001C to U+001E, next line, and the line and
paragraph separators.  A boundary ends a line and does not start one, so a text that ends in a
boundary has no empty last line.
-/

namespace Amend

/-- Does the character end a line? -/
def isLineEnd (c : Char) : Bool :=
  let n := c.toNat
  (10 ≤ n && n ≤ 13) || (28 ≤ n && n ≤ 30) || n == 0x85 || n == 0x2028 || n == 0x2029

namespace Text

/-- The worker of `lineSegments`; `current` holds the present line in reverse. -/
def lineSegmentsFrom : Text → Text → List (Text × Text)
  | [], [] => []
  | current, [] => [(current.reverse, [])]
  | current, '\r' :: '\n' :: cs => (current.reverse, ['\r', '\n']) :: lineSegmentsFrom [] cs
  | current, c :: cs =>
    if isLineEnd c then (current.reverse, [c]) :: lineSegmentsFrom [] cs
    else lineSegmentsFrom (c :: current) cs

/-- The lines of a text, each with the boundary that ends it. -/
def lineSegments (t : Text) : List (Text × Text) := lineSegmentsFrom [] t

/-- The lines of a text without their boundaries. -/
def splitLines (t : Text) : List Text := t.lineSegments.map (·.1)

/-- The lines of a text with their boundaries. -/
def splitLinesWithEnds (t : Text) : List Text := t.lineSegments.map fun s => s.1 ++ s.2

end Text

end Amend
