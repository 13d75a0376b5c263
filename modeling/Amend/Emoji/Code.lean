import Amend.Emoji.People
import Amend.Text.Blank

/-!
# Emoji codes

A code is the name of an emoji between two colons, such as `:smile:`.  `Emoji.expand` replaces the
codes of a text by their emoji.  The name may be written in large letters, and it may be followed by
`-emoji` or `-text`, which ask for the picture or the text form.

Colons are paired from left to right: two of them with no blank between are a pair, even if what
stands between is not a name and both stay.
-/

namespace Amend.Emoji

/-- The small letter for a large one.  The names of emoji have no letters beyond those of Latin-1,
so no other letter needs to be lowered; the signs for kelvin and ångström count as letters. -/
def small (c : Char) : Char :=
  let n := c.toNat
  if 0xC0 ≤ n && n ≤ 0xDE && n != 0xD7 then Char.ofNat (n + 0x20)
  else if n = 0x212A then 'k'
  else if n = 0x212B then 'å'
  else c.toLower

/-- A name, and the request for a form that follows it. -/
def splitForm (code : Text) : Text × Text :=
  match ("-emoji" : Text).isSuffixOf? code with
  | some name => (name, [pictureForm])
  | none =>
    match ("-text" : Text).isSuffixOf? code with
    | some name => (name, [textForm])
    | none => (code, [])

/-- What stands for a code.  If it does not name an emoji it is left with its colons. -/
def ofCode (code : Text) : Text :=
  let (name, form) := splitForm code
  match find? (name.map small) with
  | some emoji => emoji ++ form
  | none => ':' :: code ++ [':']

/-- The worker of `expand`, on the pieces between the colons.  The second piece is a code if another
colon follows and there is no blank in it. -/
def expandPieces : List Text → Text
  | [] => []
  | [t] => t
  | [t, u] => t ++ ':' :: u
  | t :: u :: v :: rest =>
    if u.any isBlank then t ++ ':' :: expandPieces (u :: v :: rest)
    else t ++ ofCode u ++ expandPieces (v :: rest)

/-- Replaces the codes of a text by their emoji. -/
def expand (t : Text) : Text := expandPieces (t.splitOn ':')

/-- A text without colons stays as it is. -/
theorem expand_of_not_mem {t : Text} (h : ':' ∉ t) : expand t = t := by
  simp [expand, Text.splitOn_of_not_mem h, expandPieces]

end Amend.Emoji
