import Amend.Text.Blank
import Amend.Text.Digit

/-!
# Integers in text

How a number is read from a setting or an option: blanks around it, an optional sign, and decimal
digits of any script, with single low lines between them if one likes.  A number of more than
`Number.maxDigits` digits is refused.

`Number.plain` does the part that whole numbers and decimal fractions share: it removes the blanks
around the text and turns the digits of all scripts into ASCII digits.
-/

namespace Amend

namespace Number

/-- The most digits that a whole number may have. -/
def maxDigits : Nat := 4300

/-- May the character surround a number?  The information separators may not. -/
def isPad (c : Char) : Bool := isBlank c && !(28 ≤ c.toNat && c.toNat ≤ 31)

/-- A digit of any script as an ASCII digit; other characters stay. -/
def plainDigit (c : Char) : Char :=
  match digitValue? c with
  | some n => Nat.digitChar n
  | none => c

/-- The text without the blanks around it and with ASCII digits only. -/
def plain (t : Text) : Text :=
  (Text.dropEndWhile isPad (t.dropWhile isPad)).map plainDigit

/-- The sign at the beginning of a number, and what follows it. -/
def takeSign : Text → Bool × Text
  | '-' :: t => (true, t)
  | '+' :: t => (false, t)
  | t => (false, t)

/-- The digits of a run of ASCII digits with single low lines between them.  `afterDigit` says
whether a digit has just been read. -/
def joinDigits? : (afterDigit : Bool) → Text → Option Text
  | afterDigit, [] => if afterDigit then some [] else none
  | afterDigit, c :: cs =>
    if c.isDigit then (joinDigits? true cs).map (c :: ·)
    else if c = '_' && afterDigit then joinDigits? false cs
    else none

end Number

namespace Integer

/-- Reads a whole number. -/
def read? (t : Text) : Option Int :=
  let (negative, digits) := Number.takeSign (Number.plain t)
  match Number.joinDigits? false digits with
  | none => none
  | some digits =>
    if Number.maxDigits < digits.length then none
    else
      let n : Int := digits.decimalValue
      some (if negative then -n else n)

end Integer

end Amend
