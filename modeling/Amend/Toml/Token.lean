import Amend.Text.Basic

/-!
# Tokens of a TOML document

Blanks, comments, strings and keys.  Each reader takes a text and gives what it read together with
the rest, or nothing if the text does not begin as it should.

Strings are read by a machine of one state per situation, so that each character is looked at once:
`StringState` says whether the reader is among plain characters, after a backslash, inside the
digits of a code point, or skipping the line end that a backslash has hidden.
-/

namespace Amend.Toml

/-- A blank inside a line. -/
def isSpace (c : Char) : Bool := c == ' ' || c == '\t'

/-- A blank or a line end. -/
def isSpaceOrLine (c : Char) : Bool := isSpace c || c == '\n'

/-- A control character that may stand neither in a comment nor in a string of one line. -/
def isControl (c : Char) : Bool := (c.toNat < 32 && c != '\t') || c.toNat == 127

/-- Removes blanks at the beginning. -/
def skipSpaces (t : Text) : Text := t.dropWhile isSpace

/-- Removes a comment at the beginning, up to the end of its line. -/
def skipComment? (t : Text) : Option Text :=
  match t with
  | '#' :: rest =>
    if (rest.takeWhile (· ≠ '\n')).any isControl then none else some (rest.dropWhile (· ≠ '\n'))
  | _ => some t

/-- Removes blanks, line ends and comments at the beginning. -/
def skipVoid? : (inComment : Bool) → Text → Option Text
  | _, [] => some []
  | true, c :: cs =>
    if c = '\n' then skipVoid? false cs else if isControl c then none else skipVoid? true cs
  | false, c :: cs =>
    if isSpaceOrLine c then skipVoid? false cs
    else if c = '#' then skipVoid? true cs
    else some (c :: cs)

/-! ## Strings -/

/-- The situation of a reader inside a basic string. -/
inductive StringState where
  | plain
  /-- After a backslash. -/
  | escape
  /-- Inside a code point, with so many digits to come. -/
  | codePoint (left value : Nat)
  /-- After a backslash and a blank: the line must end here. -/
  | lineEnd
  /-- On the lines after a hidden line end: blanks are passed over. -/
  | skipping
  deriving DecidableEq, Repr

/-- The character that a letter after a backslash stands for. -/
def escaped? (c : Char) : Option Char :=
  if c = 'b' then some '\x08'
  else if c = 't' then some '\t'
  else if c = 'n' then some '\n'
  else if c = 'f' then some '\x0c'
  else if c = 'r' then some '\r'
  else if c = '"' then some '"'
  else if c = '\\' then some '\\'
  else none

/-- The value of a hexadecimal digit in either case. -/
def hexValue? (c : Char) : Option Nat :=
  if c.isDigit then some (c.toNat - '0'.toNat)
  else if 'a' ≤ c && c ≤ 'f' then some (c.toNat - 'a'.toNat + 10)
  else if 'A' ≤ c && c ≤ 'F' then some (c.toNat - 'A'.toNat + 10)
  else none

/-- The character with a code point, unless it is a surrogate or too large. -/
def scalar? (n : Nat) : Option Char := if n.isValidChar then some (Char.ofNat n) else none

/-- Reads a basic string up to its closing marks; `done` holds the characters so far in reverse. -/
def basicBody? (multiline : Bool) : StringState → (done : Text) → Text → Option (Text × Text)
  | _, _, [] => none
  | .escape, done, c :: cs =>
    if multiline && isSpace c then basicBody? multiline .lineEnd done cs
    else if multiline && c = '\n' then basicBody? multiline .skipping done cs
    else if c = 'u' then basicBody? multiline (.codePoint 4 0) done cs
    else if c = 'U' then basicBody? multiline (.codePoint 8 0) done cs
    else
      match escaped? c with
      | some e => basicBody? multiline .plain (e :: done) cs
      | none => none
  | .codePoint left value, done, c :: cs =>
    match hexValue? c with
    | none => none
    | some d =>
      let value := 16 * value + d
      if left ≤ 1 then
        match scalar? value with
        | some e => basicBody? multiline .plain (e :: done) cs
        | none => none
      else basicBody? multiline (.codePoint (left - 1) value) done cs
  | .lineEnd, done, c :: cs =>
    if isSpace c then basicBody? multiline .lineEnd done cs
    else if c = '\n' then basicBody? multiline .skipping done cs
    else none
  | state, done, c :: cs =>
    if state = .skipping && isSpaceOrLine c then basicBody? multiline .skipping done cs
    else if c = '"' then
      if !multiline then some (done.reverse, cs)
      else
        match cs with
        | '"' :: '"' :: rest => some (done.reverse, rest)
        | _ => basicBody? multiline .plain (c :: done) cs
    else if c = '\\' then basicBody? multiline .escape done cs
    else if isControl c && !(multiline && c = '\n') then none
    else basicBody? multiline .plain (c :: done) cs

/-- Reads a literal string of one line, after its opening mark. -/
def literalBody? (t : Text) : Option (Text × Text) :=
  let body := t.takeWhile (· ≠ '\'')
  match t.dropWhile (· ≠ '\'') with
  | _ :: rest => if body.any isControl then none else some (body, rest)
  | [] => none

/-- Reads a literal string of several lines, after its opening marks. -/
def literalLines? : (done : Text) → Text → Option (Text × Text)
  | _, [] => none
  | done, '\'' :: '\'' :: '\'' :: rest => some (done.reverse, rest)
  | done, c :: cs => if isControl c && c ≠ '\n' then none else literalLines? (c :: done) cs

/-- A string over several lines may end in up to two further marks. -/
def withExtraMarks (mark : Char) (body rest : Text) : Text × Text :=
  let extra := (rest.take 2).takeWhile (· == mark)
  (body ++ extra, rest.drop extra.length)

/-- Removes a line end directly after the opening marks. -/
def skipFirstLine : Text → Text
  | '\n' :: rest => rest
  | t => t

/-- Reads a string of any of the four forms. -/
def string? : Text → Option (Text × Text)
  | '"' :: '"' :: '"' :: rest =>
    (basicBody? true .plain [] (skipFirstLine rest)).map fun (body, rest) =>
      withExtraMarks '"' body rest
  | '"' :: rest => basicBody? false .plain [] rest
  | '\'' :: '\'' :: '\'' :: rest =>
    (literalLines? [] (skipFirstLine rest)).map fun (body, rest) => withExtraMarks '\'' body rest
  | '\'' :: rest => literalBody? rest
  | _ => none

/-! ## Keys -/

/-- May the character stand in a key without marks? -/
def isBareKeyChar (c : Char) : Bool := c.isAlphanum || c == '-' || c == '_'

/-- Reads one part of a key. -/
def keyPart? (t : Text) : Option (Text × Text) :=
  match t with
  | '\'' :: rest => literalBody? rest
  | '"' :: rest => basicBody? false .plain [] rest
  | _ =>
    match t.takeWhile isBareKeyChar with
    | [] => none
    | c :: cs => some (c :: cs, t.dropWhile isBareKeyChar)

/-- Reads the parts of a dotted key, of which there are at most `fuel`. -/
def keyFrom? : (fuel : Nat) → Text → Option (List Text × Text)
  | 0, _ => none
  | fuel + 1, t =>
    match keyPart? t with
    | none => none
    | some (part, rest) =>
      match skipSpaces rest with
      | '.' :: rest => (keyFrom? fuel (skipSpaces rest)).map fun (key, rest) => (part :: key, rest)
      | rest => some ([part], rest)

/-- Reads a dotted key and the blanks after it.  A part takes at least one character. -/
def key? (t : Text) : Option (List Text × Text) := keyFrom? t.length t

end Amend.Toml
