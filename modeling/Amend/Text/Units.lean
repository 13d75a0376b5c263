import Amend.Text.Basic

/-!
# UTF-16 code units

A compiler that stores text in UTF-16 counts the characters of a line in code units: one for each
character of the basic plane and two, a surrogate pair, for every other.  `Text.units` measures a
text in them, and `Text.indexAt` goes back from a number of units to a number of characters.

* An offset inside a surrogate pair belongs to the following character.
* Past the end of the text, each further unit counts as one further character.
* In a text of ASCII characters every offset is an index already, and nothing has to be counted.
-/

namespace Amend

/-- The number of UTF-16 code units that encode a character. -/
def unitsOf (c : Char) : Nat := if 0x10000 ≤ c.toNat then 2 else 1

namespace Text

/-- The length of a text in UTF-16 code units. -/
def units : Text → Nat
  | [] => 0
  | c :: cs => unitsOf c + units cs

/-- The least number of characters that take up the given number of code units. -/
def indexOfUnits : Text → Nat → Nat
  | _, 0 => 0
  | [], u + 1 => u + 1
  | c :: cs, u + 1 => indexOfUnits cs (u + 1 - unitsOf c) + 1

/-- Passes over characters until those behind it take up `offset` code units.  `index` counts the
characters behind it, and `consumed` their code units. -/
def scanUnits (offset : Int) (index consumed : Nat) : Text → Nat
  | [] => index + (offset - consumed).toNat
  | c :: cs =>
    if offset ≤ consumed then index
    else scanUnits offset (index + 1) (consumed + unitsOf c) cs

/-- Does the text consist of ASCII characters only? -/
def isAscii (t : Text) : Bool := t.all fun c => c.toNat < 0x80

/-- The character index at a signed offset in code units; offsets before the text are at its
beginning. -/
def indexAt (t : Text) (offset : Int) : Nat :=
  if offset ≤ 0 then 0
  else if t.isAscii then offset.toNat
  else scanUnits offset 0 0 t

end Text

@[simp]
theorem Text.units_nil : Text.units [] = 0 := rfl

@[simp]
theorem Text.units_cons (c : Char) (cs : Text) :
    Text.units (c :: cs) = unitsOf c + Text.units cs := rfl

/-- Lengths in code units add up. -/
theorem Text.units_append (s t : Text) : Text.units (s ++ t) = s.units + t.units := by
  induction s with
  | nil => simp
  | cons c cs ih => simp [ih, Nat.add_assoc]

end Amend
