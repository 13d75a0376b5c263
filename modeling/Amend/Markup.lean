import Amend.Emoji.Code

/-!
# Markup

Text for the terminal may name its style in tags, such as `[green]` and `[/green]`.  No style is
shown, so `Markup.render` drops the tags.  A backslash before a tag makes it ordinary text, and two
backslashes before a tag stand for one.
-/

namespace Amend.Markup

/-- May a tag begin with the character? -/
def isTagStart (c : Char) : Bool := c.isLower || c == '#' || c == '/' || c == '@'

/-- May the character stand inside a tag? -/
def isTagBody (c : Char) : Bool := c != '[' && c != ']'

/-- The tag at the beginning of a text, with its brackets. -/
def tag? : Text → Option Text
  | '[' :: c :: cs =>
    match cs.dropWhile isTagBody with
    | ']' :: _ => if isTagStart c then some ('[' :: c :: cs.takeWhile isTagBody ++ [']']) else none
    | _ => none
  | _ => none

/-- The number of backslashes at the beginning of a text. -/
def escapes (t : Text) : Nat := (t.takeWhile (· == '\\')).length

/-- The worker of `pieces`: `skip` counts the characters of the current tag that are still to be
passed over. -/
def piecesFrom : (skip : Nat) → Text → List Text
  | _, [] => [[]]
  | skip + 1, _ :: cs => piecesFrom skip cs
  | 0, c :: cs =>
    let n := escapes (c :: cs)
    match tag? ((c :: cs).drop n) with
    | none => Text.prependHead [c] (piecesFrom 0 cs)
    | some tag =>
      [] :: List.replicate (n / 2) '\\' :: (if n % 2 = 1 then tag else []) ::
        piecesFrom (n + tag.length - 1) cs

/-- The pieces of text between the tags. -/
def pieces (t : Text) : List Text := piecesFrom 0 t

/-- The text that is shown.  Every piece has its emoji codes expanded, and a bracket that begins no
tag may have a backslash before it. -/
def render (t : Text) : Text :=
  (pieces t).flatMap fun piece => Emoji.expand (Text.replaceAll "\\[" "[" piece)

end Amend.Markup
