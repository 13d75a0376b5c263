import Amend.Number.Integer

/-!
# Decimal fractions in text

Reads a binary floating-point number from its decimal form: a sign, digits with an optional point,
an optional exponent; or one of the words for infinity and for no number, in any case.  Low lines
may stand between digits.  The result is the nearest number of double precision; a magnitude beyond
the largest is infinite.
-/

namespace Amend.Decimal

/-- A decimal number: digits before and after the point, and an exponent of ten. -/
structure Parts where
  whole : Text
  fraction : Text
  exponent : Int
  deriving DecidableEq, Repr, Inhabited

/-- The positive infinity. -/
def infinity : Float := 1.0 / 0.0

/-- The value that is no number. -/
def notANumber : Float := 0.0 / 0.0

/-- The number with the digits `n` and the exponent `e` of ten.  Exponents far outside the range of
double precision are answered without computing the power. -/
def scaled (n : Nat) (e : Int) : Float :=
  let magnitude := (Nat.toDigits 10 n).length + e
  if n = 0 || magnitude < -330 then 0.0
  else if 400 < magnitude then infinity
  else if e < 0 then Float.ofScientific n true (-e).toNat
  else Float.ofScientific n false e.toNat

namespace Parts

/-- The nearest number of double precision. -/
def toFloat (p : Parts) : Float :=
  scaled (p.whole ++ p.fraction).decimalValue (p.exponent - p.fraction.length)

end Parts

/-- Splits off leading ASCII digits. -/
def takeDigits (t : Text) : Text × Text := (t.takeWhile Char.isDigit, t.dropWhile Char.isDigit)

/-- An exponent that takes up the whole text; no text is exponent zero. -/
def exponent? : Text → Option Int
  | [] => some 0
  | c :: cs =>
    if c = 'e' || c = 'E' then
      let (negative, digits) := Number.takeSign cs
      if digits.isEmpty || !digits.all Char.isDigit then none
      else
        let n : Int := digits.decimalValue
        some (if negative then -n else n)
    else none

/-- A number without sign that takes up the whole text. -/
def parts? (t : Text) : Option Parts :=
  let (whole, t) := takeDigits t
  let (fraction, t) :=
    match t with
    | '.' :: t => takeDigits t
    | t => ([], t)
  if whole.isEmpty && fraction.isEmpty then none
  else (exponent? t).map fun exponent => ⟨whole, fraction, exponent⟩

/-- The text without its low lines, if each stands between two digits.  `last` is the character
before. -/
def dropLowLines? : (last : Char) → Text → Option Text
  | last, [] => if last = '_' then none else some []
  | last, c :: cs =>
    if c = '_' then if last.isDigit then dropLowLines? c cs else none
    else if last = '_' && !c.isDigit then none
    else (dropLowLines? c cs).map (c :: ·)

/-- The value of a word such as `inf`, in any case. -/
def word? (t : Text) : Option Float :=
  let t := t.map Char.toLower
  if t = ("inf" : Text) || t = ("infinity" : Text) then some infinity
  else if t = ("nan" : Text) then some notANumber
  else none

/-- Reads a number. -/
def read? (t : Text) : Option Float :=
  match dropLowLines? ' ' (Number.plain t) with
  | none => none
  | some t =>
    let (negative, t) := Number.takeSign t
    let magnitude := word? t <|> (parts? t).map Parts.toFloat
    magnitude.map fun x => if negative then -x else x

end Amend.Decimal
