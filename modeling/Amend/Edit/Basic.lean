import Amend.Source.Snapshot

/-!
# Edits and fixes

An edit replaces the text of a range; a fix is an edit together with the code of the diagnostic that
it removes.
-/

namespace Amend

/-- The replacement of a range of text. -/
structure Edit where
  range : Range
  newText : Text
  deriving DecidableEq, Repr, Inhabited

namespace Edit

/-- The edit that removes a range. -/
def deletion (range : Range) : Edit := ⟨range, []⟩

/-- Does the edit put nothing in place of its range? -/
def isDeletion (e : Edit) : Bool := e.newText.isEmpty

end Edit

/-- An edit that removes a diagnostic of the given code. -/
structure Fix extends Edit where
  code : Text
  deriving DecidableEq, Repr, Inhabited

namespace Fix

/-- Tags an edit with the code that it fixes. -/
def ofEdit (e : Edit) (code : Text) : Fix := { e with code }

end Fix

end Amend
