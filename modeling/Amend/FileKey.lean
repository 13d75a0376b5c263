import Amend.Table
import Amend.Text.Basic

/-!
# Which file a reported path means

A compiler may print a relative path for a file that was supplied by an absolute one, or the other
way round.  A reported path means a supplied file if it is the same, or if the one ends with the
other after a slash; backslashes count as slashes and `./` at the beginning counts as nothing.  The
first supplied file that fits is taken, unless one fits literally.

`components` gives the second view: two paths fit when the one's list of components is an end of
the other's.
-/

namespace Amend.FileKey

/-- Removes every `./` at the beginning. -/
def dropCurrent : Text → Text
  | '.' :: '/' :: rest => dropCurrent rest
  | t => t

/-- Backslashes as slashes, and no `./` at the beginning. -/
def normalize (path : Text) : Text :=
  dropCurrent (path.map fun c => if c = '\\' then '/' else c)

/-- The components of a normalized path. -/
def components (path : Text) : List Text := (normalize path).splitOn '/'

/-- Do two paths mean the same file, as far as they say? -/
def fits (a b : Text) : Bool :=
  let a := normalize a
  let b := normalize b
  a == b || ('/' :: b).isSuffixOf a || ('/' :: a).isSuffixOf b

/-- The supplied path that a reported one means. -/
def find? (keys : List Text) (reported : Text) : Option Text :=
  if keys.contains reported then some reported else keys.find? (fits · reported)

end Amend.FileKey
