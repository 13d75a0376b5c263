import Amend.Text.Basic

/-!
# Words of a command line

Splits a line into words as a shell does.  Words are separated by spaces, tabs and line ends.
Apostrophes keep everything between them; between double quotation marks a backslash protects a
quotation mark or another backslash and otherwise stands for itself; outside of marks a backslash
protects the next character, whatever it is.  Marks also make a word, even an empty one.
-/

namespace Amend.ShellWords

/-- What is wrong with a line. -/
inductive ShellError where
  | openQuotation
  | openEscape
  deriving DecidableEq, Repr

/-- The fault in words. -/
def ShellError.message : ShellError → Text
  | openQuotation => "No closing quotation"
  | openEscape => "No escaped character"

/-- Where a reader of the line stands. -/
inductive State where
  /-- Between two words. -/
  | between
  /-- In a word, outside of marks. -/
  | word
  /-- Between marks. -/
  | quotation (mark : Char)
  /-- After a backslash outside of marks. -/
  | escape
  /-- After a backslash between double marks. -/
  | quotedEscape
  deriving DecidableEq, Repr, Inhabited

/-- A reader: its state, the present word in reverse, and the words before it in reverse. -/
structure Reader where
  state : State := .between
  current : Text := []
  words : List Text := []
  deriving DecidableEq, Repr, Inhabited

/-- Does the character separate words? -/
def isSeparator (c : Char) : Bool := c == ' ' || c == '\t' || c == '\r' || c == '\n'

/-- Does the character open or close a quotation? -/
def isQuotationMark (c : Char) : Bool := c == '"' || c == '\''

namespace Reader

/-- Adds a character to the present word. -/
def push (r : Reader) (c : Char) : Reader := { r with current := c :: r.current }

/-- Ends the present word. -/
def close (r : Reader) : Reader :=
  { state := .between, current := [], words := r.current.reverse :: r.words }

/-- Reads one character. -/
def step (r : Reader) (c : Char) : Reader :=
  match r.state with
  | .between =>
    if isSeparator c then r
    else if isQuotationMark c then { r with state := .quotation c }
    else if c = '\\' then { r with state := .escape }
    else { r.push c with state := .word }
  | .word =>
    if isSeparator c then r.close
    else if isQuotationMark c then { r with state := .quotation c }
    else if c = '\\' then { r with state := .escape }
    else r.push c
  | .quotation mark =>
    if c = mark then { r with state := .word }
    else if c = '\\' && mark = '"' then { r with state := .quotedEscape }
    else r.push c
  | .escape => { r.push c with state := .word }
  | .quotedEscape =>
    let r := if c = '\\' || c = '"' then r else r.push '\\'
    { r.push c with state := .quotation '"' }

end Reader

/-- The words of a line. -/
def split (line : Text) : Except ShellError (List Text) :=
  let r := line.foldl Reader.step {}
  match r.state with
  | .between => .ok r.words.reverse
  | .word => .ok r.close.words.reverse
  | .quotation _ => .error .openQuotation
  | .escape => .error .openEscape
  | .quotedEscape => .error .openEscape

end Amend.ShellWords
