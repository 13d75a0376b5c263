import Amend.Markup
import Amend.Notice
import Amend.Text.Tabs
import Amend.Text.Wrap

/-!
# Terminal output

How text reaches a terminal.  `Console.line` is for text that may hold anything: emoji codes are
expanded, control characters that would move the cursor are dropped, tabs become blanks, and lines
that are too wide are broken.  `Console.styledLine` is for text with markup.  Notices are preceded
by their level, and tables are drawn with box characters.

`Console.plain` is for announcements, which are written as they are except for the sequences that
would switch colours.
-/

namespace Amend.Console

/-- Is the character dropped?  Bell, backspace, vertical tab, form feed and return are. -/
def isDropped (c : Char) : Bool :=
  c == '\x07' || c == '\x08' || c == '\x0b' || c == '\x0c' || c == '\r'

/-- The width of the terminal. -/
def terminalWidth : Nat := 4000

/-- The lines that a text takes, none of them wider than `width`. -/
def fit (width : Nat) (t : Text) : List Text :=
  (Text.lines (t.filter fun c => !isDropped c)).flatMap fun line =>
    Text.wrap width (Text.expandTabs line)

/-- Text without markup, as it is shown on the terminal. -/
def line (t : Text) : Text := Text.joinWith ['\n'] (fit terminalWidth (Emoji.expand t)) ++ ['\n']

/-- Text with markup, as it is shown on the terminal. -/
def styledLine (t : Text) : Text :=
  Text.joinWith ['\n'] (fit terminalWidth (Markup.render t)) ++ ['\n']

/-- Blanks up to a width. -/
def pad (width : Nat) (t : Text) : Text := List.replicate (width - t.length) ' '

/-- The width of the level before a notice. -/
def levelWidth : Nat := 8

/-- The line of a notice.  What does not fit stands below the message. -/
def noticeLine (n : Notice) : Text :=
  let level := n.level.name
  let margin := levelWidth + 1
  level ++ pad margin level ++
    Text.joinWith ('\n' :: pad margin []) (fit (terminalWidth - margin) n.message) ++ ['\n']

/-! ## Control sequences -/

/-- May the character stand between the bracket and the letter of a control sequence? -/
def isParameter (c : Char) : Bool := c == ';' || c == '?' || c.isDigit

/-- The length of the control sequence at the beginning of a text, or zero if there is none: an
escape, an opening bracket, parameters and a letter. -/
def sequenceLength : Text → Nat
  | '\x1b' :: '[' :: rest =>
    match rest.dropWhile isParameter with
    | c :: _ => if c.isAlpha then (rest.takeWhile isParameter).length + 3 else 0
    | [] => 0
  | _ => 0

/-- The worker of `plain`: `skip` counts the characters of the current sequence that are still to be
passed over. -/
def plainFrom : (skip : Nat) → Text → Text
  | _, [] => []
  | skip + 1, _ :: cs => plainFrom skip cs
  | 0, c :: cs =>
    match sequenceLength (c :: cs) with
    | 0 => c :: plainFrom 0 cs
    | n + 1 => plainFrom n cs

/-- The text without its control sequences. -/
def plain (t : Text) : Text := plainFrom 0 t

/-! ## Tables -/

/-- On which side of its column a cell stands. -/
inductive Align where
  | left
  | right
  deriving DecidableEq, Repr, Inhabited

/-- A column: its heading and the side of its cells. -/
structure Column where
  heading : Text
  align : Align := .left
  deriving DecidableEq, Repr, Inhabited

/-- A cell in its column, with a blank on either side. -/
def cell (align : Align) (width : Nat) (t : Text) : Text :=
  match align with
  | .left => ' ' :: t ++ pad width t ++ [' ']
  | .right => ' ' :: pad width t ++ t ++ [' ']

/-- A row between bars. -/
def row (bar : Char) (cells : List Text) : Text :=
  bar :: Text.joinWith [bar] cells ++ [bar, '\n']

/-- A rule over the widths of the columns. -/
def rule (left dash joint right : Char) (widths : List Nat) : Text :=
  left :: Text.joinWith [joint] (widths.map fun w => List.replicate (w + 2) dash) ++ [right, '\n']

/-- The width of each column: that of its widest cell. -/
def columnWidths (columns : List Column) (rows : List (List Text)) : List Nat :=
  columns.zipIdx.map fun (column, i) =>
    (rows.map fun cells => (cells[i]?.getD []).length).foldl max column.heading.length

/-- A table with a title above its middle. -/
def table (title : Text) (columns : List Column) (rows : List (List Text)) : Text :=
  let widths := columnWidths columns rows
  let total := widths.foldl (fun n w => n + w + 3) 1
  let cells := fun (align : Column → Align) (texts : List Text) =>
    ((columns.zip widths).zip texts).map fun ((column, width), t) => cell (align column) width t
  List.replicate ((total - title.length) / 2) ' ' ++ title ++ '\n' ::
    rule '┏' '━' '┳' '┓' widths ++
    row '┃' (cells Column.align (columns.map Column.heading)) ++
    rule '┡' '━' '╇' '┩' widths ++
    rows.flatMap (fun texts => row '│' (cells Column.align texts)) ++
    rule '└' '─' '┴' '┘' widths

end Amend.Console
