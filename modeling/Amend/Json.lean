import Amend.Text.Quoted
import Amend.Text.Units

/-!
# JSON output

Results for other programs are printed as JSON: over several lines with two blanks per level, or on
one line in ASCII.  Empty lists and objects take two characters.  Between quotation marks the
quotation mark, the backslash and all control characters are escaped; in ASCII, so is every
character beyond it, as UTF-16 code units.
-/

namespace Amend

/-- A JSON document. -/
inductive Json where
  | number (n : Int)
  | string (t : Text)
  | array (items : List Json)
  /-- The fields in the order in which they are printed. -/
  | object (fields : List (Text × Json))
  deriving Inhabited

namespace Json

/-- An escape of four hexadecimal digits. -/
def unitEscape (n : Nat) : Text := '\\' :: 'u' :: Text.hex 4 n

/-- A character beyond ASCII as one or two code units. -/
def unitEscapes (c : Char) : Text :=
  let n := c.toNat
  if n < 0x10000 then unitEscape n
  else
    let m := n - 0x10000
    unitEscape (0xD800 + m / 0x400) ++ unitEscape (0xDC00 + m % 0x400)

/-- One character between quotation marks. -/
def escapeChar (ascii : Bool) (c : Char) : Text :=
  if c = '"' then ['\\', '"']
  else if c = '\\' then ['\\', '\\']
  else if c = '\n' then ['\\', 'n']
  else if c = '\r' then ['\\', 'r']
  else if c = '\t' then ['\\', 't']
  else if c = '\x08' then ['\\', 'b']
  else if c = '\x0c' then ['\\', 'f']
  else if c.toNat < 32 then unitEscape c.toNat
  else if ascii && 127 ≤ c.toNat then unitEscapes c
  else [c]

/-- A text between quotation marks. -/
def quote (ascii : Bool) (t : Text) : Text := '"' :: t.flatMap (escapeChar ascii) ++ ['"']

/-- A new line at a level. -/
def lineAt (level : Nat) : Text := '\n' :: List.replicate (2 * level) ' '

/-- Members between brackets, each on a line of its own. -/
def block (opener closer : Char) (level : Nat) (members : List Text) : Text :=
  if members.isEmpty then [opener, closer]
  else
    opener :: lineAt (level + 1) ++ Text.joinWith (',' :: lineAt (level + 1)) members ++
      lineAt level ++ [closer]

mutual

/-- The document over several lines, from a level on. -/
def pretty (level : Nat) : Json → Text
  | number n => Text.ofInt n
  | string t => quote false t
  | array items => block '[' ']' level (prettyItems (level + 1) items)
  | object fields => block '\x7b' '\x7d' level (prettyFields (level + 1) fields)

/-- The items of a list. -/
def prettyItems (level : Nat) : List Json → List Text
  | [] => []
  | item :: items => pretty level item :: prettyItems level items

/-- The fields of an object. -/
def prettyFields (level : Nat) : List (Text × Json) → List Text
  | [] => []
  | (name, value) :: fields =>
    (quote false name ++ (": " : Text) ++ pretty level value) :: prettyFields level fields

end

/-- A list of texts on one line, in ASCII. -/
def textsInAscii (ts : List Text) : Text :=
  '[' :: Text.joinWith ", " (ts.map (quote true)) ++ [']']

end Json

end Amend
