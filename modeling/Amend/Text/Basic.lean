import Amend.StableSort

/-!
# Text

Everything the library reads, edits and prints is a list of Unicode scalar values.  Working on
lists keeps every index a count of characters and lets the usual list lemmas speak about contents,
paths and messages alike; `Text.toString` is used only where a value leaves the library.

The module holds the operations that do not depend on a character class:

* `Text.ofNat`, `Text.ofInt` write numbers in decimal;
* `Text.dropEndWhile` is `List.dropWhile` seen from the other end (Mathlib's `List.rdropWhile`, which
  is not in the core library that the program is built on);
* `Text.replaceAll` replaces the occurrences of one text by another, left to right and without
  overlap.
-/

namespace Amend

/-- A piece of text, one entry per Unicode scalar value. -/
abbrev Text := List Char

/-- String literals may be written where a text is expected. -/
instance : Coe String Text := ⟨String.toList⟩

namespace Text

/-- The same characters as a `String`. -/
def toString (t : Text) : String := String.ofList t

/-- A natural number in decimal, without leading zeros. -/
def ofNat (n : Nat) : Text := Nat.toDigits 10 n

/-- An integer in decimal; negative numbers carry a leading minus sign. -/
def ofInt : Int → Text
  | .ofNat n => ofNat n
  | .negSucc n => '-' :: ofNat (n + 1)

/-- Removes the longest final segment all of whose characters satisfy `p`. -/
def dropEndWhile (p : Char → Bool) (t : Text) : Text :=
  (t.reverse.dropWhile p).reverse

/-- The text without its final carriage returns. -/
def dropEndReturns (t : Text) : Text := t.dropEndWhile (· == '\r')

/-- The worker of `replaceAll`: `skip` counts the characters of the current occurrence that are
still to be passed over. -/
def replaceFrom (needle by' : Text) : Nat → Text → Text
  | _, [] => []
  | skip + 1, _ :: cs => replaceFrom needle by' skip cs
  | 0, c :: cs =>
    if needle.isPrefixOf (c :: cs) then by' ++ replaceFrom needle by' (needle.length - 1) cs
    else c :: replaceFrom needle by' 0 cs

/-- Replaces every occurrence of the non-empty text `needle`, found left to right and without
overlap, by `by'`. -/
def replaceAll (needle by' t : Text) : Text := replaceFrom needle by' 0 t

/-- Does `needle` occur anywhere in the text? -/
def occursIn (needle : Text) : Text → Bool
  | [] => needle.isEmpty
  | c :: cs => needle.isPrefixOf (c :: cs) || occursIn needle cs

/-- The lines of a text: the pieces between line feeds.  There is always at least one. -/
def lines (t : Text) : List Text := t.splitOn '\n'

/-- A text is one piece if the character at which it is split does not occur. -/
theorem splitOn_of_not_mem {c : Char} {t : Text} (h : c ∉ t) : t.splitOn c = [t] := by
  rw [List.splitOn_eq_splitOnP]
  exact List.splitOnP_eq_singleton fun d hd => by
    simpa using fun heq : d = c => h (heq ▸ hd)

/-- Puts a text in front of the first one of a list. -/
def prependHead (t : Text) : List Text → List Text
  | [] => [t]
  | u :: us => (t ++ u) :: us

@[simp]
theorem flatten_prependHead (t : Text) (us : List Text) :
    (prependHead t us).flatten = t ++ us.flatten := by
  cases us <;> simp [prependHead]

/-- Lower-case ASCII letters are raised; every other character stays. -/
def upperAscii (t : Text) : Text := t.map Char.toUpper

/-- The order of texts: by the code points of the first characters that differ, and a text before
its continuations. -/
def le : Text → Text → Bool
  | [], _ => true
  | _ :: _, [] => false
  | a :: as, b :: bs => a.toNat < b.toNat || (a.toNat == b.toNat && le as bs)

/-- Texts in increasing order. -/
def sort (ts : List Text) : List Text := stableSort le ts

/-- Puts one text between the members of a list. -/
def joinWith (sep : Text) (ts : List Text) : Text := sep.intercalate ts

theorem joinWith_cons_cons (sep t u : Text) (us : List Text) :
    joinWith sep (t :: u :: us) = t ++ (sep ++ joinWith sep (u :: us)) := by
  simp [joinWith]

end Text

end Amend
