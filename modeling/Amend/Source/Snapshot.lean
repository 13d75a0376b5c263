import Amend.Source.Position
import Amend.Text.Units

/-!
# Snapshots of a source file

A snapshot is the text of one file at one moment, together with its lines, which are cut only once.
It is the one place where a reported position, counted in UTF-16 code units, becomes an index into
the text.

* `Snapshot.offset` gives every position an index between zero and the length of the text: a line
  past the end is at the end, a line before the beginning at the beginning.
* `Snapshot.positionAt` goes the other way and says at which position a character stands.
* Lines end at line feeds only; a carriage return before one is part of the line.
-/

namespace Amend

/-- The text of a source file at one moment. -/
structure Snapshot where
  text : Text
  /-- The lines of the file, without their line feeds. -/
  lines : List Text := text.lines
  lines_eq : lines = text.lines := by rfl
  deriving DecidableEq, Repr

namespace Snapshot

/-- The snapshot of a text. -/
def ofText (text : Text) : Snapshot := { text }

instance : Inhabited Snapshot := ⟨ofText []⟩

/-- The number of lines; an empty file has one. -/
def lineCount (s : Snapshot) : Nat := s.lines.length

/-- The indices at which the lines of a list start, when the first starts at `at'`. -/
def startsFrom (at' : Nat) : List Text → List Nat
  | [] => []
  | l :: ls => at' :: startsFrom (at' + l.length + 1) ls

/-- The index at which each line starts. -/
def lineStarts (s : Snapshot) : List Nat := startsFrom 0 s.lines

/-- The text of a line; a line that does not exist is empty. -/
def lineAt (s : Snapshot) (line : Int) : Text :=
  if line < 0 then [] else (s.lines[line.toNat]?).getD []

/-- The index of a position: the start of its line plus the characters before it, but never beyond
the end of the text. -/
def offset (s : Snapshot) (p : Position) : Nat :=
  if p.line < 0 then 0
  else
    match s.lines[p.line.toNat]?, s.lineStarts[p.line.toNat]? with
    | some line, some start => min (start + line.indexAt p.character) s.text.length
    | _, _ => s.text.length

/-- The text that a range covers; nothing if the range is inverted. -/
def textAt (s : Snapshot) (r : Range) : Text :=
  (s.text.take (s.offset r.stop)).drop (s.offset r.start)

/-- The text of a line before an offset in code units. -/
def lineBefore (s : Snapshot) (line character : Int) : Text :=
  (s.lineAt line).take ((s.lineAt line).indexAt character)

/-- The text of a line from an offset in code units on. -/
def lineAfter (s : Snapshot) (line character : Int) : Text :=
  (s.lineAt line).drop ((s.lineAt line).indexAt character)

/-- The position of the character with the given index: the line feeds before it are its line, and
the code units since the last of them its offset in the line. -/
def positionAt (s : Snapshot) (index : Nat) : Position :=
  let before := s.text.take index
  ⟨before.count '\n', Text.units (before.reverse.takeWhile (· ≠ '\n'))⟩

end Snapshot

end Amend
