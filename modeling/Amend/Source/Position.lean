import Amend.StableSort

/-!
# Positions and ranges

Places in a source file as a compiler reports them: zero-based lines, and characters counted in
UTF-16 code units from the beginning of the line.  Nothing keeps a report from naming a line or a
character that does not exist, so both coordinates are integers; `Snapshot` gives them a meaning.
-/

namespace Amend

/-- A zero-based place in a source file. -/
structure Position where
  line : Int
  /-- The offset in the line, in UTF-16 code units. -/
  character : Int
  deriving DecidableEq, Repr, Inhabited

namespace Position

/-- Document order: by line, then by character. -/
instance : LE Position :=
  ⟨fun a b => a.line < b.line ∨ (a.line = b.line ∧ a.character ≤ b.character)⟩

instance (a b : Position) : Decidable (a ≤ b) :=
  inferInstanceAs (Decidable (a.line < b.line ∨ (a.line = b.line ∧ a.character ≤ b.character)))

/-- The place `delta` code units further along the same line. -/
def shifted (p : Position) (delta : Int) : Position := ⟨p.line, p.character + delta⟩

/-- Positions in document order. -/
def sort (ps : List Position) : List Position := stableSort (fun a b => a ≤ b) ps

/-- The number of different positions in a list. -/
def distinct (ps : List Position) : Nat := ps.eraseDups.length

end Position

/-- A span of source text: the start belongs to it, the end does not. -/
structure Range where
  start : Position
  stop : Position
  deriving DecidableEq, Repr, Inhabited

namespace Range

/-- The range between two pairs of coordinates. -/
def ofCoords (startLine startChar stopLine stopChar : Int) : Range :=
  ⟨⟨startLine, startChar⟩, ⟨stopLine, stopChar⟩⟩

/-- Do both ends lie on one line? -/
def isSingleLine (r : Range) : Bool := r.start.line == r.stop.line

end Range

end Amend
