import Amend.Text.Basic
import Amend.Text.Printable

/-!
# Quoted text

Messages show a text from outside between quotation marks, so that its ends and its invisible
characters can be seen.  Apostrophes are used unless the text holds an apostrophe and no double
quotation mark.  The chosen mark and the backslash are escaped with a backslash; line feed, return
and tab have letters of their own; every other unprintable character is written by its code point
in two, four or eight hexadecimal digits.
-/

namespace Amend.Text

/-- The digit of a number below sixteen. -/
def hexDigit (n : Nat) : Char := Nat.digitChar n

/-- The last `width` hexadecimal digits of a number, in lower case. -/
def hex : (width : Nat) → Nat → Text
  | 0, _ => []
  | width + 1, n => hex width (n / 16) ++ [hexDigit (n % 16)]

/-- The mark that a text is put between. -/
def quoteMark (t : Text) : Char :=
  if t.contains '\'' && !t.contains '"' then '"' else '\''

/-- One character inside quotation marks. -/
def escapeChar (mark c : Char) : Text :=
  if c = mark || c = '\\' then ['\\', c]
  else if c = '\n' then ['\\', 'n']
  else if c = '\r' then ['\\', 'r']
  else if c = '\t' then ['\\', 't']
  else if isPrintable c then [c]
  else if c.toNat < 0x100 then '\\' :: 'x' :: hex 2 c.toNat
  else if c.toNat < 0x10000 then '\\' :: 'u' :: hex 4 c.toNat
  else '\\' :: 'U' :: hex 8 c.toNat

/-- The text between quotation marks. -/
def quoted (t : Text) : Text :=
  let mark := t.quoteMark
  mark :: t.flatMap (escapeChar mark) ++ [mark]

end Amend.Text
