import Amend.Number.Shortest

/-!
# Seconds

The time that a compiler is given.  A whole number of seconds stays one when it is printed.
-/

namespace Amend

/-- A number of seconds, as it was given. -/
inductive Seconds where
  | whole (n : Int)
  | fraction (x : Float)
  deriving Inhabited

namespace Seconds

/-- Is it neither zero nor less?  What is no number counts as positive. -/
def isPositive : Seconds → Bool
  | whole n => decide (0 < n)
  | fraction x => !decide (x ≤ 0)

/-- The number in words. -/
def describe : Seconds → Text
  | whole n => Text.ofInt n
  | fraction x => Decimal.write x

/-- A limit in words; there may be none. -/
def describeLimit : Option Seconds → Text
  | none => "None"
  | some s => s.describe

end Seconds

end Amend
