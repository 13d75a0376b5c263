import Amend.Diagnostic.Basic
import Amend.Edit.Basic

/-!
# Positions after deletions

Diagnostics of the second phase were reported against the text from before the first.  What the
first phase deleted on a line shifts the rest of that line to the left; a position inside a deletion
moves to its start.  Deletions over several lines and other edits are left out of account.
-/

namespace Amend

namespace Fix

/-- Does the fix delete text of a single line? -/
def isLineDeletion (f : Fix) : Bool := f.toEdit.isDeletion && f.range.isSingleLine

/-- How many code units before a position the deletion removes from its line. -/
def removedBefore (f : Fix) (p : Position) : Int :=
  if f.range.start.line = p.line && f.range.start.character ≤ p.character then
    min f.range.stop.character p.character - f.range.start.character
  else 0

end Fix

namespace Position

/-- How many code units before a position the deletions of a list remove from its line, each
measured in the text before all of them. -/
def removedBy (p : Position) : (deletions : List Fix) → Int
  | [] => 0
  | f :: fs => f.removedBefore p + p.removedBy fs

/-- The position after all deletions of a list. -/
def pastDeletions (p : Position) (deletions : List Fix) : Position :=
  p.shifted (-p.removedBy deletions)

end Position

namespace Diagnostic

/-- The diagnostic at its place after the given fixes; both ends move on their own. -/
def pastFixes (fixes : List Fix) (d : Diagnostic) : Diagnostic :=
  let deletions := fixes.filter Fix.isLineDeletion
  d.withRange ⟨d.range.start.pastDeletions deletions, d.range.stop.pastDeletions deletions⟩

end Diagnostic

end Amend
