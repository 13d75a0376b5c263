import Amend.Text.Basic
import Amend.Text.Quoted

/-!
# UTF-8

Decoding of octets.  A file whose octets are no UTF-8 is refused with the place and the kind of the
first fault: an octet that starts no character, a character broken off by an octet that cannot
continue it, or a character broken off by the end of the data.

`Utf8.split` reads one character; its three continuation ranges are those of the Unicode standard,
which exclude overlong forms, surrogates and code points beyond U+10FFFF.
-/

namespace Amend

/-- What is wrong with the octets of a character. -/
inductive Utf8Cause where
  | badStart
  | badContinuation
  | truncated
  deriving DecidableEq, Repr

/-- The first fault in a sequence of octets. -/
structure Utf8Error where
  /-- How many octets are in order before the faulty character. -/
  start : Nat
  /-- How many octets of the faulty character were read, with the first of them. -/
  width : Nat
  first : UInt8
  cause : Utf8Cause
  deriving DecidableEq, Repr

namespace Utf8Cause

/-- The cause in words. -/
def describe : Utf8Cause → Text
  | badStart => "invalid start byte"
  | badContinuation => "invalid continuation byte"
  | truncated => "unexpected end of data"

end Utf8Cause

namespace Utf8Error

/-- The fault in words, with its place in the data. -/
def message (e : Utf8Error) : Text :=
  let place : Text :=
    if e.width = 1 then
      "byte 0x" ++ Text.hex 2 e.first.toNat ++ " in position " ++ Text.ofNat e.start
    else "bytes in position " ++ Text.ofNat e.start ++ "-" ++ Text.ofNat (e.start + e.width - 1)
  "'utf-8' codec can't decode " ++ place ++ ": " ++ e.cause.describe

end Utf8Error

namespace Utf8

/-- The range of the second octet of a character, given its first. -/
def secondRange (first : Nat) : Nat × Nat :=
  if first = 0xE0 then (0xA0, 0xBF)
  else if first = 0xED then (0x80, 0x9F)
  else if first = 0xF0 then (0x90, 0xBF)
  else if first = 0xF4 then (0x80, 0x8F)
  else (0x80, 0xBF)

/-- How many octets continue a character with the given first octet, and the bits that the first
octet contributes. -/
def lead? (first : Nat) : Option (Nat × Nat) :=
  if first < 0x80 then some (0, first)
  else if first < 0xC2 then none
  else if first < 0xE0 then some (1, first - 0xC0)
  else if first < 0xF0 then some (2, first - 0xE0)
  else if first < 0xF5 then some (3, first - 0xF0)
  else none

/-- Reads `n` continuation octets, the first of them in the range `(lo, hi)`.  `seen` counts the
octets of the character read so far and `acc` holds its bits. -/
def continue? (lo hi : Nat) (seen acc : Nat) :
    (n : Nat) → List UInt8 → Except (Utf8Cause × Nat) (Nat × List UInt8)
  | 0, rest => .ok (acc, rest)
  | _ + 1, [] => .error (.truncated, seen)
  | n + 1, b :: rest =>
    if lo ≤ b.toNat && b.toNat ≤ hi then
      continue? 0x80 0xBF (seen + 1) (acc * 64 + (b.toNat - 0x80)) n rest
    else .error (.badContinuation, seen)

/-- The worker of `decode`: at most `fuel` characters, the next at octet `at'`. -/
def decodeFrom : (fuel at' : Nat) → List UInt8 → Except Utf8Error Text
  | 0, _, _ => .ok []
  | _ + 1, _, [] => .ok []
  | fuel + 1, at', b :: rest =>
    match lead? b.toNat with
    | none => .error ⟨at', 1, b, .badStart⟩
    | some (more, bits) =>
      let (lo, hi) := secondRange b.toNat
      match continue? lo hi 1 bits more rest with
      | .error (cause, seen) => .error ⟨at', seen, b, cause⟩
      | .ok (n, rest) => (decodeFrom fuel (at' + more + 1) rest).map (Char.ofNat n :: ·)

/-- The text that a sequence of octets encodes, or its first fault.  Each character takes at least
one octet, so as many steps as there are octets suffice. -/
def decode (octets : List UInt8) : Except Utf8Error Text := decodeFrom octets.length 0 octets

end Utf8

end Amend
