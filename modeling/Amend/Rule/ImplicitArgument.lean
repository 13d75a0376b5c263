import Amend.Rule.Basic
import Amend.Text.Blank

/-!
# Redundant implicit arguments

The compiler reports an argument that it would supply by itself.  The argument is deleted together
with one comma that separated it from its neighbours, so that neither a double comma nor a dangling
one is left:

* the comma that follows on the same line, with the gaps around it;
* otherwise the comma that the next line begins with, if nothing else follows on this one;
* otherwise the comma directly before the argument.

If then only blanks are left around the deleted text, whole lines are deleted.  A last argument on
lines of its own, whose comma ends an earlier line, is deleted back to that comma instead.
-/

namespace Amend.Rule

/-- Is the character a gap between two parts of a line? -/
def isGap (c : Char) : Bool := c == ' ' || c == '\t'

/-- The comma at the beginning of a text, with the gaps before and after it. -/
def commaAhead? (t : Text) : Option Text :=
  match t.dropWhile isGap with
  | ',' :: rest => some (t.takeWhile isGap ++ ',' :: rest.takeWhile isGap)
  | _ => none

/-- The comma at the end of a text with the gaps after it, and the text before it. -/
def commaBehind? (t : Text) : Option (Text × Text) :=
  match t.reverse.dropWhile isGap with
  | ',' :: before => some (before.reverse, ',' :: (t.reverse.takeWhile isGap).reverse)
  | _ => none

/-- The end of the deletion, past the comma that follows the argument. -/
def stopPastComma (s : Snapshot) (stop : Position) : Position :=
  let after := s.lineAfter stop.line stop.character
  match commaAhead? after with
  | some comma => stop.shifted comma.units
  | none =>
    if after.isBlankText && decide (stop.line + 1 < s.lineCount) then
      match commaAhead? (s.lineAt (stop.line + 1)) with
      | some comma => ⟨stop.line + 1, comma.units⟩
      | none => stop
    else stop

/-- The start of the deletion, before a comma directly in front of the argument. -/
def startBeforeComma (s : Snapshot) (start : Position) : Position :=
  match commaBehind? (s.lineBefore start.line start.character) with
  | some (_, comma) => start.shifted (-(comma.units : Int))
  | none => start

/-- The position of the comma that ends the last line with text among the first `n` lines. -/
def commaAbove? (s : Snapshot) : (n : Nat) → Option Position
  | 0 => none
  | n + 1 =>
    let line := (s.lineAt n).dropEndReturns
    if line.isBlankText then commaAbove? s n
    else (commaBehind? line).map fun (before, _) => ⟨n, before.units⟩

/-- The range of the argument, extended over the comma next to it. -/
def withComma (s : Snapshot) (r : Range) : Range :=
  let stop := stopPastComma s r.stop
  if stop = r.stop then ⟨startBeforeComma s r.start, stop⟩ else ⟨r.start, stop⟩

/-- Does the range leave nothing but blanks on its first and last line? -/
def standsAlone (s : Snapshot) (r : Range) : Bool :=
  (s.lineBefore r.start.line r.start.character).isBlankText &&
    (s.lineAfter r.stop.line r.stop.character).isBlankText

/-- The lines that the range touches, with the line feed after them. -/
def wholeLines (r : Range) : Range := ⟨⟨r.start.line, 0⟩, ⟨r.stop.line + 1, 0⟩⟩

/-- The range that is deleted for an argument. -/
def argumentRange (s : Snapshot) (r : Range) : Range :=
  let extended := withComma s r
  if standsAlone s extended then
    -- Only an argument without a comma of its own may need the comma of an earlier line.
    let above :=
      if extended = r then commaAbove? s (min extended.start.line.toNat s.lineCount) else none
    match above with
    | some comma =>
      ⟨comma, ⟨extended.stop.line, (s.lineAt extended.stop.line).dropEndReturns.units⟩⟩
    | none => wholeLines extended
  else extended

/-- Deletes an argument that the compiler supplies by itself, and its separator. -/
def implicitArgument : Rule where
  name := "RedundantImplicitArgumentFixer"
  code := "M0237"
  phase := .second
  description := "Remove redundant implicit argument"
  procedure := some fun d s => some (.deletion (argumentRange s d.range))

end Amend.Rule
