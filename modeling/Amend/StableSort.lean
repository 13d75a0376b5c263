/-!
# Sorting without changing more than necessary

A stable sort: members that are equal for the order stay in the order in which they were given.
Each member is put in front of the first one that does not come before it, from the last member to
the first.

The program is built on the core library alone, whose merge sort cannot be evaluated in a proof.
This one is the insertion sort of Mathlib (`stableSort_eq_insertionSort`).
-/

namespace Amend

variable {α : Type}

/-- Puts a member in front of the first one that does not come before it. -/
def insertInOrder (le : α → α → Bool) (a : α) : List α → List α
  | [] => [a]
  | b :: bs => if le a b then a :: b :: bs else b :: insertInOrder le a bs

/-- The members of a list in order, where members that are equal for the order keep theirs. -/
def stableSort (le : α → α → Bool) : List α → List α
  | [] => []
  | a :: as => insertInOrder le a (stableSort le as)

end Amend
