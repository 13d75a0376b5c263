import Amend.Text.Blank
import Amend.Text.Crop

/-!
# Breaking lines

A line that is wider than a terminal is broken between words.  A word goes to the next line if it
does not fit on the present one; a word that fits on no line starts a line of its own and is chopped
at the width.  Blanks belong to the word before them.  In the end a line loses blanks while it has
more characters than the terminal has columns, and what still reaches beyond the width is cropped.

* `words` cuts a line into words.
* `Layout.place` puts one word down, `wrap` a whole line.
-/

namespace Amend

/-- The part of a line that a scan for words is in. -/
inductive Zone where
  /-- Before the first word. -/
  | lead
  | word
  /-- Among the blanks after a word. -/
  | gap
  deriving DecidableEq, Repr

namespace Zone

/-- The zone after a further character. -/
def next (z : Zone) (c : Char) : Zone :=
  if !isBlank c then .word
  else
    match z with
    | .lead => .lead
    | _ => .gap

end Zone

namespace Text

/-- The words of a line, each with the blanks after it; the first one has those before it, too. -/
def wordsFrom (z : Zone) : Text → List Text
  | [] => [[]]
  | c :: cs =>
    let rest := prependHead [c] (wordsFrom (z.next c) cs)
    if z = .gap && !isBlank c then [] :: rest else rest

/-- The words of a line. -/
def words (t : Text) : List Text := wordsFrom .lead t

theorem flatten_wordsFrom (z : Zone) (t : Text) : (wordsFrom z t).flatten = t := by
  induction t generalizing z with
  | nil => rfl
  | cons c cs ih =>
    simp only [wordsFrom]
    split <;> simp [ih]

/-- Cutting a line into words loses nothing. -/
@[simp]
theorem flatten_words (t : Text) : (words t).flatten = t := flatten_wordsFrom .lead t

/-- Chops a text into pieces that are no wider than `width`, when the first one starts in a given
column. -/
def chopFrom (width : Nat) : (column : Nat) → Text → List Text
  | _, [] => [[]]
  | column, c :: cs =>
    if width < column + columnsOf c then [] :: prependHead [c] (chopFrom width (columnsOf c) cs)
    else prependHead [c] (chopFrom width (column + columnsOf c) cs)

/-- Chops a text into pieces that are no wider than `width`. -/
def chop (width : Nat) (t : Text) : List Text := chopFrom width 0 t

theorem flatten_chopFrom (width column : Nat) (t : Text) :
    (chopFrom width column t).flatten = t := by
  induction t generalizing column with
  | nil => rfl
  | cons c cs ih =>
    simp only [chopFrom]
    split <;> simp [ih]

/-- Chopping a text loses nothing. -/
@[simp]
theorem flatten_chop (width : Nat) (t : Text) : (chop width t).flatten = t :=
  flatten_chopFrom width 0 t

/-- Drops blanks from the end of a text as long as it has more than `width` characters. -/
def trimEnd (width : Nat) (t : Text) : Text :=
  let blanks := t.length - (t.dropEndWhile isBlank).length
  t.take (t.length - min blanks (t.length - width))

/-- The state of the work: the finished lines, the present one and its columns. -/
structure Layout where
  done : List Text := []
  current : Text := []
  column : Nat := 0

namespace Layout

/-- Starts a new line, unless the present one is still empty. -/
def newLine (l : Layout) (t : Text) : Layout where
  done := if l.current.isEmpty then l.done else l.done ++ [l.current]
  current := t
  column := t.columns

/-- Puts a word on the present line if it fits, and otherwise on new ones. -/
def place (width : Nat) (l : Layout) (word : Text) : Layout :=
  let needed := (word.dropEndWhile isBlank).columns
  if l.column + needed ≤ width then
    { l with current := l.current ++ word, column := l.column + word.columns }
  else if needed ≤ width then l.newLine word
  else (word.chop width).foldl newLine l

/-- All lines. -/
def lines (l : Layout) : List Text := l.done ++ [l.current]

end Layout

/-- The lines that a line takes on a terminal of the given width. -/
def wrap (width : Nat) (t : Text) : List Text :=
  ((words t).foldl (Layout.place width) {}).lines.map fun line => crop width (trimEnd width line)

end Text

end Amend
