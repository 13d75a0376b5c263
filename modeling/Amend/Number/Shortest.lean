import Amend.Text.Basic

/-!
# The shortest decimal of a double

A number of double precision is printed with the fewest digits that read back as the same number,
and of those with the ones nearest to it.

A finite positive double is `m · 2^q`.  The reals that round to it form an interval around it, whose
ends belong to it iff `m` is even.  For one digit, two digits and so on, the two neighbours of the
number on the decimal grid are tested in exact arithmetic; the first grid with a neighbour in the
interval gives the digits.  All numbers are scaled by `2^1100 · 10^400`, which makes them integers.

The digits are laid out by `Digits.layout`: positionally for exponents from -4 to 15, with an
exponent of at least two digits otherwise, and always with a point or an exponent.
-/

namespace Amend.Decimal

/-- Digits `n` and exponent `e`: the number `n · 10^e`. -/
structure Digits where
  digits : Nat
  exponent : Int
  deriving DecidableEq, Repr, Inhabited

/-- A finite positive double: the number `m · 2^q`. -/
structure Binary where
  mantissa : Nat
  exponent : Int
  deriving DecidableEq, Repr, Inhabited

/-- A power of two. -/
def twoTo (n : Nat) : Nat := Nat.pow 2 n

/-- A power of ten. -/
def tenTo (n : Nat) : Nat := Nat.pow 10 n

/-- The least exponent of two. -/
def minExponent : Int := -1074

/-- The binary form of the bits of a finite double without its sign. -/
def Binary.ofBits (bits : Nat) : Binary :=
  let field : Nat := bits / twoTo 52
  let rest : Nat := bits % twoTo 52
  if field = 0 then ⟨rest, minExponent⟩ else ⟨rest + twoTo 52, (field : Int) - 1 + minExponent⟩

/-- The power `2^q`, scaled. -/
def scaledTwo (q : Int) : Nat := twoTo (q + 1100).toNat * tenTo 400

/-- The power `10^k`, scaled. -/
def scaledTen (k : Int) : Nat := twoTo 1100 * tenTo (k + 400).toNat

/-- The exponent of the first decimal digit. -/
def leading (b : Binary) : Int :=
  let n := b.mantissa * scaledTwo b.exponent / twoTo 1100
  ((Nat.toDigits 10 n).length : Int) - 401

/-- Does a scaled number round to `b`?  Below a power of two the gap to the next smaller double is
half as wide. -/
def Binary.holds (b : Binary) (x : Nat) : Bool :=
  let v := b.mantissa * scaledTwo b.exponent
  let above := scaledTwo (b.exponent - 1)
  let below :=
    if b.mantissa = twoTo 52 && b.exponent ≠ minExponent then scaledTwo (b.exponent - 2) else above
  if b.mantissa % 2 = 0 then v ≤ x + below && x ≤ v + above
  else v < x + below && x < v + above

/-- The nearer of the two neighbours of `b` on the grid of multiples of `10^k` that round to `b`;
the even one if both are equally near. -/
def Binary.onGrid? (b : Binary) (k : Int) : Option Digits :=
  let v := b.mantissa * scaledTwo b.exponent
  let unit := scaledTen k
  let lo := v / unit
  let hi := lo + 1
  let loFits := b.holds (lo * unit) && lo ≠ 0
  let hiFits := b.holds (hi * unit)
  if loFits && hiFits then
    let down := v - lo * unit
    let up := hi * unit - v
    if down < up || (down = up && lo % 2 = 0) then some ⟨lo, k⟩ else some ⟨hi, k⟩
  else if loFits then some ⟨lo, k⟩
  else if hiFits then some ⟨hi, k⟩
  else none

/-- The first grid with a hit, from `n` digits on, of `more` grids to be tried. -/
def Binary.shortestFrom (b : Binary) (n : Nat) : (more : Nat) → Digits
  | 0 => ⟨b.mantissa, 0⟩
  | more + 1 =>
    match b.onGrid? (leading b - n + 1) with
    | some d => d
    | none => b.shortestFrom (n + 1) more

/-- The shortest decimal of a finite positive double; seventeen digits always suffice. -/
def Binary.shortest (b : Binary) : Digits := b.shortestFrom 1 17

/-- Decimal digits without zeros at the end. -/
def Digits.text (d : Digits) : Text := Text.dropEndWhile (· == '0') (Text.ofNat d.digits)

/-- The exponent of the first digit. -/
def Digits.leading (d : Digits) : Int := d.exponent + ((Text.ofNat d.digits).length : Int) - 1

/-- An exponent with its sign and at least two digits. -/
def exponentText (e : Int) : Text :=
  let digits := Text.ofNat e.natAbs
  (if e < 0 then '-' else '+') :: (if digits.length < 2 then '0' :: digits else digits)

/-- Positional below 10^16 and from 10^-4 on, otherwise with an exponent. -/
def Digits.layout (d : Digits) : Text :=
  let digits := d.text
  let e := d.leading
  if -4 ≤ e && e < 16 then
    if e < 0 then ("0." : Text) ++ List.replicate (-e - 1).toNat '0' ++ digits
    else
      let n := e.toNat + 1
      let whole := digits.take n ++ List.replicate (n - digits.length) '0'
      let fraction := digits.drop n
      whole ++ '.' :: (if fraction.isEmpty then ['0'] else fraction)
  else
    let fraction := digits.drop 1
    digits.take 1 ++ (if fraction.isEmpty then [] else '.' :: fraction) ++ 'e' :: exponentText e

/-- The text of a double. -/
def write (x : Float) : Text :=
  if x.isNaN then "nan"
  else
    let bits := x.toBits.toNat
    let magnitude := bits % twoTo 63
    let sign : Text := if twoTo 63 ≤ bits then ['-'] else []
    if x.isInf then sign ++ ("inf" : Text)
    else if magnitude = 0 then sign ++ ("0.0" : Text)
    else sign ++ (Binary.ofBits magnitude).shortest.layout

end Amend.Decimal
