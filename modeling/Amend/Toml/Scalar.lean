import Amend.Number.Decimal
import Amend.Value

/-!
# Numbers, dates and times in TOML

Each reader gives a value and the rest of the text.  A date has to exist in the calendar; a whole
number in decimal has to keep within the limit on digits, and is the only one of them that is
refused for its size rather than its form.
-/

namespace Amend.Toml

/-- Why a document has no value. -/
inductive TomlError where
  | malformed
  /-- A whole number with so many digits. -/
  | longInteger (digits : Nat)
  /-- Lists and tables stand too deep inside each other. -/
  | tooDeep
  deriving DecidableEq, Repr

/-- What a reader gives: a value and the rest of the text. -/
abbrev Parsed (α : Type) := Except TomlError (α × Text)

/-! ## Numbers -/

/-- Digits after a first one, with single low lines between them. -/
def moreDigits (p : Char → Bool) : Text → Text × Text
  | [] => ([], [])
  | ['_'] => ([], ['_'])
  | '_' :: c :: cs =>
    if p c then
      let (ds, rest) := moreDigits p cs
      (c :: ds, rest)
    else ([], '_' :: c :: cs)
  | c :: cs =>
    if p c then
      let (ds, rest) := moreDigits p cs
      (c :: ds, rest)
    else ([], c :: cs)

/-- A non-empty run of digits with single low lines between them. -/
def digits? (p : Char → Bool) : Text → Option (Text × Text)
  | [] => none
  | c :: cs =>
    if p c then
      let (ds, rest) := moreDigits p cs
      some (c :: ds, rest)
    else none

/-- Is the character a digit in the given base? -/
def isDigitOf (base : Nat) (c : Char) : Bool :=
  if base = 16 then c.isDigit || ('a' ≤ c && c ≤ 'f') || ('A' ≤ c && c ≤ 'F')
  else '0' ≤ c && c.toNat < '0'.toNat + base

/-- The value of digits in a base. -/
def valueIn (base : Nat) (ds : Text) : Nat :=
  let digit := fun (c : Char) =>
    if c.isDigit then c.toNat - '0'.toNat
    else c.toLower.toNat - 'a'.toNat + 10
  ds.foldl (fun n c => base * n + digit c) 0

/-- The base that a letter after a zero announces. -/
def base? (c : Char) : Option Nat :=
  if c = 'x' then some 16 else if c = 'b' then some 2 else if c = 'o' then some 8 else none

/-- A whole number with a base. -/
def prefixed? : Text → Option (Value × Text)
  | '0' :: c :: rest =>
    (base? c).bind fun base =>
      (digits? (isDigitOf base) rest).map fun (ds, rest) => (.integer (valueIn base ds), rest)
  | _ => none

/-- The whole part of a decimal number: a zero, or digits that do not begin with one. -/
def wholePart? : Text → Option (Text × Text)
  | '0' :: rest => some (['0'], rest)
  | t => digits? Char.isDigit t

/-- The digits after the point, if a point with digits follows. -/
def fractionPart? : Text → Option (Text × Text)
  | '.' :: rest => digits? Char.isDigit rest
  | _ => none

/-- The exponent, if a mark with digits follows. -/
def exponentPart? : Text → Option (Int × Text)
  | c :: rest =>
    if c = 'e' || c = 'E' then
      let (negative, rest) := Number.takeSign rest
      (digits? Char.isDigit rest).map fun (ds, rest) =>
        let n : Int := ds.decimalValue
        (if negative then -n else n, rest)
    else none
  | [] => none

/-- A number in decimal: whole unless a fraction or an exponent follows. -/
def decimal? (t : Text) : Option (Parsed Value) :=
  let (negative, t) := Number.takeSign t
  (wholePart? t).map fun (whole, t) =>
    let fraction := fractionPart? t
    let t := (fraction.map Prod.snd).getD t
    let exponent := exponentPart? t
    let t := (exponent.map Prod.snd).getD t
    if fraction.isNone && exponent.isNone then
      if Number.maxDigits < whole.length then .error (.longInteger whole.length)
      else
        let n : Int := whole.decimalValue
        .ok (.integer (if negative then -n else n), t)
    else
      let x := Decimal.Parts.toFloat
        ⟨whole, (fraction.map Prod.fst).getD [], (exponent.map Prod.fst).getD 0⟩
      .ok (.decimal (if negative then -x else x), t)

/-- The words for infinity and for no number. -/
def special? (t : Text) : Option (Value × Text) :=
  let (negative, rest) := Number.takeSign t
  let sign := fun (x : Float) => if negative then -x else x
  match ("inf" : Text).isPrefixOf? rest with
  | some rest => some (.decimal (sign Decimal.infinity), rest)
  | none =>
    (("nan" : Text).isPrefixOf? rest).map fun rest => (.decimal (sign Decimal.notANumber), rest)

/-! ## Dates and times -/

/-- A number of exactly `width` digits between `lo` and `hi`. -/
def field? (width lo hi : Nat) (t : Text) : Option (Nat × Text) :=
  let ds := t.take width
  if ds.length = width && ds.all Char.isDigit then
    let n := Text.decimalValue ds
    if lo ≤ n && n ≤ hi then some (n, t.drop width) else none
  else none

/-- The rest after a given character. -/
def after? (c : Char) (t : Text) : Option Text := [c].isPrefixOf? t

/-- The rest after a time of day. -/
def time? (t : Text) : Option Text := do
  let (_, t) ← field? 2 0 23 t
  let t ← after? ':' t
  let (_, t) ← field? 2 0 59 t
  let t ← after? ':' t
  let (_, t) ← field? 2 0 59 t
  match t with
  | '.' :: c :: cs => if c.isDigit then some (cs.dropWhile Char.isDigit) else some t
  | _ => some t

/-- The rest after an offset from universal time, which may be missing. -/
def zone (t : Text) : Text :=
  match t with
  | c :: cs =>
    if c = 'Z' || c = 'z' then cs
    else if c = '+' || c = '-' then
      let rest := do
        let (_, cs) ← field? 2 0 23 cs
        let cs ← after? ':' cs
        let (_, cs) ← field? 2 0 59 cs
        some cs
      rest.getD t
    else t
  | [] => t

/-- Has the year a 29 February? -/
def isLeap (year : Nat) : Bool := year % 4 = 0 && (year % 100 ≠ 0 || year % 400 = 0)

/-- The number of days of a month. -/
def daysIn (year month : Nat) : Nat :=
  if month = 2 then if isLeap year then 29 else 28
  else if month = 4 || month = 6 || month = 9 || month = 11 then 30
  else 31

/-- A calendar date: the year, the month, the day and the rest. -/
def date? (t : Text) : Option ((Nat × Nat × Nat) × Text) := do
  let (year, t) ← field? 4 0 9999 t
  let t ← after? '-' t
  let (month, t) ← field? 2 1 12 t
  let t ← after? '-' t
  let (day, t) ← field? 2 1 31 t
  some ((year, month, day), t)

/-- The rest after the time that may follow a date. -/
def timeOfDate (t : Text) : Text :=
  match t with
  | c :: cs =>
    if c = 'T' || c = 't' || c = ' ' then ((time? cs).map zone).getD t else t
  | [] => t

/-- The part of `t` before `rest`. -/
def upTo (t rest : Text) : Text := t.take (t.length - rest.length)

/-- A date with or without a time, or a time of day. -/
def moment? (t : Text) : Option (Parsed Value) :=
  match date? t with
  | some ((year, month, day), rest) =>
    let rest := timeOfDate rest
    if 1 ≤ year && day ≤ daysIn year month then some (.ok (.moment (upTo t rest), rest))
    else some (.error .malformed)
  | none => (time? t).map fun rest => .ok (.moment (upTo t rest), rest)

/-- A number, a date or a time. -/
def scalar (t : Text) : Parsed Value :=
  match moment? t with
  | some parsed => parsed
  | none =>
    match prefixed? t with
    | some parsed => .ok parsed
    | none =>
      match decimal? t with
      | some parsed => parsed
      | none =>
        match special? t with
        | some parsed => .ok parsed
        | none => .error .malformed

end Amend.Toml
