import Amend.Text.Columns

/-!
# Tabs

A tab reaches to the next tab stop, and at least over one column.  Tab stops are eight columns
apart, so what follows a tab starts at a multiple of eight, wherever the tab stood.
-/

namespace Amend

/-- The distance between tab stops. -/
def tabStop : Nat := 8

namespace Text

/-- A piece of a line that starts at a tab stop, filled up to the next one. -/
def fillToStop (t : Text) : Text :=
  let filled := t ++ [' ']
  filled ++ List.replicate ((tabStop - filled.columns % tabStop) % tabStop) ' '

/-- The worker of `expandTabs`, on the pieces between the tabs. -/
def fillAll : List Text → Text
  | [] => []
  | [t] => t
  | t :: u :: ts => fillToStop t ++ fillAll (u :: ts)

/-- Replaces each tab of a line by the blanks that reach to the next tab stop. -/
def expandTabs (line : Text) : Text := fillAll (line.splitOn '\t')

/-- A line without tabs stays as it is. -/
theorem expandTabs_of_not_mem {line : Text} (h : '\t' ∉ line) : expandTabs line = line := by
  simp [expandTabs, splitOn_of_not_mem h, fillAll]

end Text

end Amend
