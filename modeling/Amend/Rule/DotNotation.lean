import Amend.Call
import Amend.Rule.Basic

/-!
# Dot notation

The compiler reports a whole call `Module.function(receiver, rest)` that can be written
`receiver.function(rest)`.  The name of the method is the one that the message proposes, as in

```
You can use the dot notation `list.sortInPlace(...)` here
```

and otherwise the last segment of the callee.
-/

namespace Amend.Rule

/-- The words that introduce a proposal, up to its opening mark. -/
def proposalLead : Text := "dot notation `"

/-- What follows the method in a proposal. -/
def proposalTail : Text := "(...)`"

/-- The method in a text that begins with a dot, the method and the end of a proposal. -/
def methodHere? : Text → Option Text
  | '.' :: rest =>
    match rest.takeWhile isWord with
    | [] => none
    | c :: cs => if proposalTail.isPrefixOf (rest.dropWhile isWord) then some (c :: cs) else none
  | _ => none

/-- The method at the last place of a text where one stands. -/
def lastMethod? : Text → Option Text
  | [] => none
  | c :: cs => lastMethod? cs <|> methodHere? (c :: cs)

/-- The method that a message proposes.  The receiver of the proposal is not empty, and the whole
proposal stands on one line. -/
def proposedMethod? : Text → Option Text
  | [] => none
  | c :: cs =>
    ((proposalLead.isPrefixOf? (c :: cs)).bind fun rest =>
        lastMethod? ((rest.takeWhile (· ≠ '\n')).drop 1))
      <|> proposedMethod? cs

/-- The call with its first argument in front of the method. -/
def dotForm (receiver method : Text) (rest : List Text) : Text :=
  receiver ++ '.' :: method ++ '(' :: Text.joinWith ", " rest ++ [')']

/-- Turns a call with at least one argument around. -/
def dotNotationEdit? (d : Diagnostic) (s : Snapshot) : Option Edit :=
  match Call.parse? (s.textAt d.range) with
  | none => none
  | some call =>
    match call.args with
    | [] => none
    | receiver :: rest =>
      some ⟨d.range, dotForm receiver ((proposedMethod? d.message).getD call.functionName) rest⟩

/-- Moves the first argument of a call in front of the function name. -/
def dotNotation : Rule where
  name := "DotNotationFixer"
  code := "M0236"
  phase := .second
  description := "Rewrite call to dot notation"
  procedure := some dotNotationEdit?

end Amend.Rule
