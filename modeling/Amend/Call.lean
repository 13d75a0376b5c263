import Amend.Text.Blank
import Amend.Text.Word

/-!
# Calls

Enough of the shape of a call expression `callee(arguments)` to edit it as text.  The callee is a
dotted path; the arguments are separated by the commas that stand outside every literal and every
bracket.

The scan is a machine that reads one character at a time, so that one can speak about the state
after any part of the text:

* `Nesting` is the state: how many brackets are open, whether a literal is open, and whether a
  bracket was ever closed that had not been opened;
* `Nesting.step` reads one character, `Nesting.run` a text;
* `cutFrom` cuts a text at the commas that the state lets through;
* `Call.parse?` accepts a text whose last bracket closes its first.
-/

namespace Amend

/-- Whether a scan is in code or in a literal. -/
inductive Mode where
  | code
  /-- In a literal that the given mark will close. -/
  | literal (mark : Char)
  /-- In a literal, after a backslash. -/
  | escape (mark : Char)
  deriving DecidableEq, Repr, Inhabited

/-- The state of a scan. -/
structure Nesting where
  mode : Mode := .code
  /-- Brackets opened minus brackets closed. -/
  depth : Int := 0
  /-- Was the depth never below zero? -/
  proper : Bool := true
  deriving DecidableEq, Repr, Inhabited

namespace Nesting

/-- Does the character open a literal? -/
def isMark (c : Char) : Bool := c == '"' || c == '\''

/-- Does the character open a bracket? -/
def isOpener (c : Char) : Bool := c == '(' || c == '[' || c == '\x7b'

/-- Does the character close a bracket? -/
def isCloser (c : Char) : Bool := c == ')' || c == ']' || c == '\x7d'

/-- The state before any text. -/
def start : Nesting := {}

/-- The state after one further character. -/
def step (n : Nesting) (c : Char) : Nesting :=
  match n.mode with
  | .escape mark => { n with mode := .literal mark }
  | .literal mark =>
    if c = '\\' then { n with mode := .escape mark }
    else if c = mark then { n with mode := .code }
    else n
  | .code =>
    if isMark c then { n with mode := .literal c }
    else if isOpener c then { n with depth := n.depth + 1 }
    else if isCloser c then
      { n with depth := n.depth - 1, proper := n.proper && decide (0 ≤ n.depth - 1) }
    else n

/-- The state after a text. -/
def run (n : Nesting) (t : Text) : Nesting := t.foldl step n

/-- Is the scan outside every literal and every bracket? -/
def isTop (n : Nesting) : Bool := n.mode == .code && n.depth == 0

/-- Did every bracket and every literal end that began, and no other? -/
def isClosed (n : Nesting) : Bool := n.proper && n.isTop

end Nesting

/-- Does a comma at this point separate two arguments? -/
def isCut (n : Nesting) (c : Char) : Bool := c == ',' && n.isTop

/-- The pieces of a text between the commas that separate arguments, for a scan that has reached
the state `n`.  There is always at least one piece. -/
def cutFrom (n : Nesting) : Text → List Text
  | [] => [[]]
  | c :: cs =>
    if isCut n c then [] :: cutFrom (n.step c) cs
    else
      match cutFrom (n.step c) cs with
      | [] => [[c]]
      | piece :: pieces => (c :: piece) :: pieces

/-- The arguments in the text between the brackets of a call: the stripped pieces, where a blank
piece at the end is no argument. -/
def splitArguments (t : Text) : List Text :=
  let pieces := (cutFrom .start t).map Text.strip
  if (pieces.getLast?.getD []).isEmpty then pieces.dropLast else pieces

/-- A call expression. -/
structure Call where
  /-- The dotted path of the function. -/
  callee : Text
  args : List Text
  deriving DecidableEq, Repr, Inhabited

namespace Call

/-- The last segment of the callee. -/
def functionName (c : Call) : Text := ((c.callee.splitOn '.').getLast?).getD []

/-- May the character stand in a dotted path? -/
def isPathChar (c : Char) : Bool := isWord c || c == '.'

/-- The callee and the text between the outer brackets, for a text of the form `callee(body)` with
blanks around its parts. -/
def split? (t : Text) : Option (Text × Text) :=
  let t := t.dropWhile isBlank
  match t.takeWhile isPathChar, (t.dropWhile isPathChar).dropWhile isBlank with
  | c :: cs, '(' :: rest =>
    match (Text.dropEndWhile isBlank rest).reverse with
    | ')' :: body => some (c :: cs, body.reverse)
    | _ => none
  | _, _ => none

/-- Reads a call.  A text such as `f(a)(b)`, where the last bracket closes another call than the
first one opens, is none. -/
def parse? (t : Text) : Option Call :=
  match split? t with
  | none => none
  | some (callee, body) =>
    if (Nesting.start.run body).isClosed then some ⟨callee, splitArguments body⟩ else none

end Call

end Amend
