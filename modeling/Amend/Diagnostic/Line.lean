import Amend.Diagnostic.Basic
import Amend.Number.Integer

/-!
# Diagnostic lines

A compiler prints each diagnostic on a line of its own:

```
src/Main.mo:3.18-3.23: warning [M0223], redundant type instantiation
```

`DiagnosticLine` holds the eight fields of such a line as they are written.  `write` puts them
together and `read?` takes a line apart; a line of any other shape is none.  `diagnostic?` gives
the fields their meaning: coordinates are printed from one and kept from zero, the path is stripped,
the code is in upper case and the message loses its final carriage returns.

`Diagnostic.parseAll` reads the whole output of a compiler and passes over everything that is no
diagnostic line.
-/

namespace Amend

/-- The fields of a diagnostic line, as written. -/
structure DiagnosticLine where
  file : Text
  startLine : Text
  startChar : Text
  stopLine : Text
  stopChar : Text
  kind : Text
  code : Text
  message : Text
  deriving DecidableEq, Repr, Inhabited

/-- The word that an error is announced with. -/
def errorKind : Text := "type error"

/-- The word that a warning is announced with. -/
def warningKind : Text := "warning"

/-- Does a character stand for a lower-case ASCII letter or a sign when case is ignored?  The letter
i is also written with a dotted capital or without a dot. -/
def sameIgnoringCase (letter c : Char) : Bool :=
  c.toLower == letter || (letter == 'i' && (c.toNat == 0x130 || c.toNat == 0x131))

/-- The beginning of a text that spells `word` in any mixture of cases, and what follows it. -/
def takeIgnoringCase? : (word : Text) → Text → Option (Text × Text)
  | [], t => some ([], t)
  | _ :: _, [] => none
  | w :: ws, c :: cs =>
    if sameIgnoringCase w c then (takeIgnoringCase? ws cs).map fun (t, rest) => (c :: t, rest)
    else none

/-- The longest non-empty beginning whose characters satisfy `p`, and what follows it. -/
def takeSome? (p : Char → Bool) (t : Text) : Option (Text × Text) :=
  match t.takeWhile p with
  | [] => none
  | c :: cs => some (c :: cs, t.dropWhile p)

/-- The zero-based coordinate that a positive number written in decimal digits stands for. -/
def coordinate? (digits : Text) : Option Int :=
  if Number.maxDigits < digits.length || digits.decimalValue = 0 then none
  else some ((digits.decimalValue : Int) - 1)

namespace DiagnosticLine

/-- The line with the given fields. -/
def write (l : DiagnosticLine) : Text :=
  l.file ++ ':' :: l.startLine ++ '.' :: l.startChar ++ '-' :: l.stopLine ++ '.' :: l.stopChar ++
    (": " : Text) ++ l.kind ++ (" [" : Text) ++ l.code ++ ("], " : Text) ++ l.message

/-- The kind of a diagnostic at the beginning of a text, and what follows it. -/
def takeKind? (t : Text) : Option (Text × Text) :=
  takeIgnoringCase? errorKind t <|> takeIgnoringCase? warningKind t

/-- A code: the letter M in either case and at least one digit. -/
def takeCode? : Text → Option (Text × Text)
  | [] => none
  | m :: cs =>
    if m = 'M' || m = 'm' then (takeSome? isDigit cs).map fun (digits, rest) => (m :: digits, rest)
    else none

/-- Takes a line apart. -/
def read? (t : Text) : Option DiagnosticLine := do
  let (file, t) ← takeSome? (· ≠ ':') t
  let t ← (":" : Text).isPrefixOf? t
  let (startLine, t) ← takeSome? isDigit t
  let t ← ("." : Text).isPrefixOf? t
  let (startChar, t) ← takeSome? isDigit t
  let t ← ("-" : Text).isPrefixOf? t
  let (stopLine, t) ← takeSome? isDigit t
  let t ← ("." : Text).isPrefixOf? t
  let (stopChar, t) ← takeSome? isDigit t
  let t ← (": " : Text).isPrefixOf? t
  let (kind, t) ← takeKind? t
  let t ← (" [" : Text).isPrefixOf? t
  let (code, t) ← takeCode? t
  let message ← ("], " : Text).isPrefixOf? t
  if message.isEmpty then none
  else some { file, startLine, startChar, stopLine, stopChar, kind, code, message }

/-- The severity that the kind announces. -/
def severity (l : DiagnosticLine) : Severity :=
  if (takeIgnoringCase? errorKind l.kind).isSome then .error else .warning

/-- The diagnostic of a line, unless a coordinate is zero or too long to be read. -/
def diagnostic? (l : DiagnosticLine) : Option Diagnostic := do
  let startLine ← coordinate? l.startLine
  let startChar ← coordinate? l.startChar
  let stopLine ← coordinate? l.stopLine
  let stopChar ← coordinate? l.stopChar
  some {
    file := l.file.strip
    range := Range.ofCoords startLine startChar stopLine stopChar
    code := l.code.upperAscii
    message := l.message.dropEndReturns
    severity := l.severity }

end DiagnosticLine

namespace Diagnostic

/-- The diagnostic that a single line reports, if it reports one. -/
def ofLine? (line : Text) : Option Diagnostic :=
  (DiagnosticLine.read? line).bind DiagnosticLine.diagnostic?

/-- The diagnostics in the output of a compiler, in order. -/
def parseAll (output : Text) : List Diagnostic := output.lines.filterMap ofLine?

/-- The diagnostics in the output of a compiler, where no output reports nothing. -/
def parse : Option Text → List Diagnostic
  | none => []
  | some output => parseAll output

end Diagnostic

end Amend
