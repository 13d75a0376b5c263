/-!
# The limit on rounds

However long the compiler goes on reporting, no run makes more than ten rounds.
-/

namespace Amend

/-- The most rounds that are ever made. -/
def maxRounds : Nat := 10

/-- The number of rounds for a requested limit, which has to be at least one. -/
def roundLimit? (requested : Int) : Option Nat :=
  if requested < 1 then none else some (min requested.toNat maxRounds)

end Amend
