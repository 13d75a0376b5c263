import Amend.Text.Basic

/-!
# Paths

Names of files as they are written: a root, which is empty for a relative path, and the components
between slashes.  Empty components and single dots say nothing and are dropped; double dots are
kept, since only the file tree knows where they lead.

A path beginning with exactly two slashes has a root of its own.
-/

namespace Amend

/-- A path: its root and its components. -/
structure Path where
  /-- No slash, one slash or two. -/
  root : Text
  parts : List Text
  deriving DecidableEq, Repr, Inhabited

namespace Path

/-- Reads a path. -/
def ofText (t : Text) : Path where
  root :=
    match (t.takeWhile (· == '/')).length with
    | 0 => []
    | 2 => ['/', '/']
    | _ => ['/']
  parts := (t.splitOn '/').filter fun part => !part.isEmpty && part ≠ ['.']

/-- Writes a path; the path without root and components is a dot. -/
def toText (p : Path) : Text :=
  match p.root ++ Text.joinWith ['/'] p.parts with
  | [] => ['.']
  | t => t

/-- Does the path start at the root of the tree? -/
def isAbsolute (p : Path) : Bool := !p.root.isEmpty

/-- A path seen from a directory: an absolute path is the same from everywhere. -/
def under (base p : Path) : Path :=
  if p.isAbsolute then p else ⟨base.root, base.parts ++ p.parts⟩

/-- Does a null character stand in the path? -/
def hasNull (p : Path) : Bool := p.parts.any fun part => part.contains '\x00'

/-- The last component, if there is one. -/
def name? (p : Path) : Option Text := p.parts.getLast?

/-- The path with another last component. -/
def withName (p : Path) (name : Text) : Path := ⟨p.root, p.parts.dropLast ++ [name]⟩

/-- The directory of a path; the root and the empty path are their own. -/
def parent (p : Path) : Path := ⟨p.root, p.parts.dropLast⟩

/-- A component cut before its last dot.  A dot at the beginning or at the end does not count. -/
def splitName (name : Text) : Text × Text :=
  let suffix := (name.reverse.takeWhile (· ≠ '.')).reverse
  let stemLength := name.length - suffix.length - 1
  if name.contains '.' && 0 < stemLength && !suffix.isEmpty then
    (name.take stemLength, name.drop stemLength)
  else (name, [])

/-- Takes a double dot with the component before it away. -/
def pushPart (done : List Text) (part : Text) : List Text :=
  if part = ['.', '.'] then done.dropLast else done ++ [part]

/-- The path without double dots. -/
def collapse (p : Path) : Path := ⟨p.root, p.parts.foldl pushPart []⟩

/-- The directories of a path without double dots: itself and all above it, nearest first. -/
def ancestors (p : Path) : List Path :=
  (List.range (p.parts.length + 1)).reverse.map fun n => ⟨p.root, p.parts.take n⟩

end Path

end Amend
