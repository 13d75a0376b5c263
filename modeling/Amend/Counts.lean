import Amend.Table
import Amend.Text.Basic

/-!
# Counts per code

How often each diagnostic code was reported or fixed.  A code that never occurred counts zero and
has no entry; codes are listed in the order in which they first occurred.  Whoever counts may start
anywhere, so the numbers are integers.
-/

namespace Amend

/-- A number of occurrences for each code. -/
abbrev Counts := Table Text Int

namespace Counts

/-- How often a code occurred. -/
def count (counts : Counts) (code : Text) : Int := (counts.get? code).getD 0

/-- Counts `n` further occurrences of a code. -/
def add (counts : Counts) (code : Text) (n : Int) : Counts :=
  counts.insert code (counts.count code + n)

/-- Counts one further occurrence of each code of a list. -/
def tally (counts : Counts) (codes : List Text) : Counts :=
  codes.foldl (fun counts code => counts.add code 1) counts

/-- Adds all counts of another table. -/
def addAll (counts other : Counts) : Counts :=
  other.entries.foldl (fun counts e => counts.add e.1 e.2) counts

/-- The entries in increasing order of their codes. -/
def sorted (counts : Counts) : List (Text × Int) :=
  stableSort (fun a b => Text.le a.1 b.1) counts.entries

@[simp]
theorem count_empty (code : Text) : count Table.empty code = 0 := rfl

/-- Only the count of the given code grows. -/
theorem count_add (counts : Counts) (code x : Text) (n : Int) :
    (counts.add code n).count x = counts.count x + if x = code then n else 0 := by
  rw [count, add, Table.get?_insert]
  by_cases h : x = code <;> simp [h, count]

/-- Each code is counted as often as it stands in the list. -/
theorem count_tally (counts : Counts) (codes : List Text) (x : Text) :
    (counts.tally codes).count x = counts.count x + codes.count x := by
  induction codes generalizing counts with
  | nil => simp [tally]
  | cons code codes ih =>
    have step := ih (counts.add code 1)
    rw [tally] at step
    rw [tally, List.foldl_cons, step, count_add, List.count_cons]
    by_cases h : x = code
    · simp [h, Int.add_assoc, Int.add_comm]
    · simp [h, Ne.symm h]

end Counts

end Amend
