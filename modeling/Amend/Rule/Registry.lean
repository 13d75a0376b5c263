import Amend.Rule.DotNotation
import Amend.Rule.ImplicitArgument
import Amend.Rule.TypeInstantiation
import Amend.Table

/-!
# The registry of rules

Which rule answers for which code.  A rule is accepted if it has a code, belongs to one of the two
phases, and no other rule answers for its code; once accepted it answers for good.
-/

namespace Amend

/-- Rules by the code that they answer for. -/
structure Registry where
  rules : Table Text Rule
  deriving Inhabited

/-- Why a registry refuses. -/
inductive RegistryError where
  | noCode (name : Text)
  | unknownPhase (name : Text) (phase : Phase)
  | codeTaken (code holder : Text)
  /-- The rule that answers for the code has no procedure. -/
  | incomplete (name : Text)
  deriving DecidableEq, Repr

namespace RegistryError

/-- The refusal in words. -/
def message : RegistryError → Text
  | noCode name => "Fixer class " ++ name ++ " has no code defined"
  | unknownPhase name phase =>
    "Fixer class " ++ name ++ " has invalid phase " ++ phase.describe ++ " (expected 1 or 2)"
  | codeTaken code holder => "Fixer for code '" ++ code ++ "' already registered: " ++ holder
  | incomplete name => "Fixer class " ++ name ++ " cannot be used"

end RegistryError

namespace Registry

/-- The registry without rules. -/
def empty : Registry := ⟨Table.empty⟩

/-- The rule that answers for a code. -/
def rule? (reg : Registry) (code : Text) : Option Rule := reg.rules.get? code

/-- Does a rule answer for the code? -/
def has (reg : Registry) (code : Text) : Bool := reg.rules.contains code

/-- Accepts a rule, or says why not. -/
def register (reg : Registry) (rule : Rule) : Except RegistryError Registry :=
  if rule.code.isEmpty then .error (.noCode rule.name)
  else if !rule.phase.isKnown then .error (.unknownPhase rule.name rule.phase)
  else
    match reg.rule? rule.code with
    | some holder => .error (.codeTaken rule.code holder.name)
    | none => .ok ⟨reg.rules.insert rule.code rule⟩

/-- The rule that answers for a code, ready to be used. -/
def get? (reg : Registry) (code : Text) : Except RegistryError (Option Rule) :=
  match reg.rule? code with
  | none => .ok none
  | some rule => if rule.procedure.isSome then .ok (some rule) else .error (.incomplete rule.name)

/-- All codes with a rule, in increasing order. -/
def codes (reg : Registry) : List Text := Text.sort reg.rules.keys

/-- The codes whose rules belong to a phase, in increasing order. -/
def codesOf (reg : Registry) (phase : Phase) : List Text :=
  reg.codes.filter fun code => (reg.rule? code).any (·.phase == phase)

/-- All rules, in the order of their codes. -/
def list (reg : Registry) : List Rule := reg.codes.filterMap reg.rule?

/-- Accepts the rules of a list one after the other; a refused rule changes nothing. -/
def registerAll (reg : Registry) (rules : List Rule) : Registry :=
  rules.foldl (fun reg rule => (reg.register rule).toOption.getD reg) reg

/-- The fixes for the diagnostics of one file, in the order of the diagnostics.  A diagnostic
without a rule, or whose text does not have the form that its rule expects, has no fix.

A rule without a procedure has no fix for anything here, whereas `get?` refuses it.  The rules of
this library all have one (`get?_standard`). -/
def synthesize (reg : Registry) (ds : List Diagnostic) (s : Snapshot) : List Fix :=
  ds.filterMap fun d =>
    ((reg.rule? d.code).bind (·.edit? d s)).map fun edit => Fix.ofEdit edit d.code

/-- Which rules are accepted, and what that changes. -/
theorem register_eq_ok_iff {reg reg' : Registry} {rule : Rule} : reg.register rule = .ok reg' ↔
    (rule.code ≠ [] ∧ rule.phase.isKnown = true ∧ reg.rule? rule.code = none) ∧
      reg' = ⟨reg.rules.insert rule.code rule⟩ := by
  rw [register]
  by_cases hcode : rule.code = []
  · simp [hcode]
  · by_cases hphase : rule.phase.isKnown = true
    · cases hrule : reg.rule? rule.code with
      | some holder => simp [hcode, hphase]
      | none =>
          simp only [hphase, List.isEmpty_iff, hcode, if_false, Bool.not_true, Bool.false_eq_true,
            Except.ok.injEq, ne_eq, not_false_eq_true, and_self, true_and]
          exact eq_comm
    · simp [hcode, hphase]

/-- An accepted rule answers for its own code; for all other codes nothing changes. -/
theorem rule?_of_register {reg reg' : Registry} {rule : Rule} (h : reg.register rule = .ok reg')
    (code : Text) : reg'.rule? code = if code = rule.code then some rule else reg.rule? code := by
  obtain ⟨-, rfl⟩ := register_eq_ok_iff.mp h
  exact Table.get?_insert reg.rules rule.code code rule

end Registry

/-- The rules of this library. -/
def Rule.all : List Rule := [.typeInstantiation, .dotNotation, .implicitArgument]

/-- The registry of all rules of this library. -/
def Registry.standard : Registry := Registry.empty.registerAll Rule.all

/-- The registry of those rules of this library whose codes are in a list.  A code that occurs twice
is refused. -/
def Registry.only (codes : List Text) : Except RegistryError Registry :=
  (codes.filterMap fun code => Rule.all.find? (·.code == code)).foldlM Registry.register .empty

end Amend
