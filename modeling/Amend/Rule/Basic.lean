import Amend.Diagnostic.Basic
import Amend.Edit.Basic
import Amend.Text.Quoted

/-!
# Rules

A rule handles the diagnostics of one code: given a diagnostic and the text of its file, it
proposes at most one edit that removes the diagnostic.  Rules of phase one run first and only
delete; rules of phase two look at the text that phase one leaves behind.

A rule is described before it is known to be usable, so its phase may be anything that a description
can say; `Registry.register` accepts only phases one and two.
-/

namespace Amend

/-- A phase, as a rule's description gives it. -/
inductive Phase where
  | number (n : Int)
  | word (t : Text)
  deriving DecidableEq, Repr, Inhabited

namespace Phase

/-- The phase of plain deletions. -/
def first : Phase := .number 1

/-- The phase of replacements. -/
def second : Phase := .number 2

/-- Is it one of the two phases of a pass? -/
def isKnown (p : Phase) : Bool := p == first || p == second

/-- The phase in a message; a word is quoted. -/
def describe : Phase → Text
  | number n => Text.ofInt n
  | word t => t.quoted

end Phase

/-- How a rule turns a diagnostic and the text of its file into an edit. -/
abbrev Procedure := Diagnostic → Snapshot → Option Edit

/-- The treatment of one kind of diagnostic. -/
structure Rule where
  name : Text
  /-- The code of the diagnostics that the rule handles. -/
  code : Text
  phase : Phase := .second
  description : Text := []
  /-- The rule's procedure; a rule can be described before it has one. -/
  procedure : Option Procedure := none
  deriving Inhabited

namespace Rule

/-- Does the rule handle the diagnostic? -/
def handles (r : Rule) (d : Diagnostic) : Bool := d.code == r.code

/-- The edit that the rule proposes. -/
def edit? (r : Rule) (d : Diagnostic) (s : Snapshot) : Option Edit :=
  r.procedure.bind fun procedure => procedure d s

end Rule

end Amend
