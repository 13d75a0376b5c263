import Amend.Rule.Basic

/-!
# Redundant type instantiations

The compiler reports exactly the instantiation that it could have found itself, such as `<Nat>` in
`List.empty<Nat>()`; removing that span is the whole fix.
-/

namespace Amend.Rule

/-- Deletes a type instantiation that the compiler can infer. -/
def typeInstantiation : Rule where
  name := "RedundantTypeInstantiationFixer"
  code := "M0223"
  phase := .first
  description := "Remove redundant type instantiation"
  procedure := some fun d _ => some (.deletion d.range)

end Amend.Rule
