import Amend.Text.Basic

/-!
# Blank characters

The blank characters are the Unicode white-space characters together with the four information
separators U+001C to U+001F.  `Text.strip` removes them from both ends of a text, and a text is
blank when nothing else is in it.
-/

namespace Amend

/-- Is the character blank? -/
def isBlank (c : Char) : Bool :=
  let n := c.toNat
  (9 ≤ n && n ≤ 13) || (28 ≤ n && n ≤ 32) || n == 0x85 || n == 0xA0 || n == 0x1680 ||
    (0x2000 ≤ n && n ≤ 0x200A) || n == 0x2028 || n == 0x2029 || n == 0x202F || n == 0x205F ||
    n == 0x3000

namespace Text

/-- Removes blank characters from both ends. -/
def strip (t : Text) : Text := dropEndWhile isBlank (t.dropWhile isBlank)

/-- Is every character of the text blank? -/
def isBlankText (t : Text) : Bool := t.all isBlank

end Text

/-- Every character that the core library counts as white space is blank. -/
theorem isBlank_of_isWhitespace {c : Char} (h : c.isWhitespace = true) : isBlank c = true := by
  simp only [Char.isWhitespace, Bool.or_eq_true, decide_eq_true_eq] at h
  rcases h with ((h | h) | h) | h <;> subst h <;> decide

end Amend
