import Amend.Rule.Registry

/-!
# Requests to a registry

A registry is asked for rules, and given further ones, one request after the other.  A rule is made
ready when it is first asked for, and from then on the same one is handed out.
-/

namespace Amend.Registry

/-- What a registry is asked to do. -/
inductive Request where
  | register (rule : Rule)
  | get (code : Text)
  | has (code : Text)
  | codes
  | codesOf (phase : Phase)
  | list

/-- What a registry answers. -/
inductive Answer where
  | accepted
  | refused (e : RegistryError)
  | rule (found : Option Rule)
  | known (b : Bool)
  | codes (codes : List Text)
  | rules (rules : List Rule)

/-- A registry in use. -/
structure Desk where
  registry : Registry := .empty
  /-- The rules that are ready, by the codes under which they were asked for. -/
  ready : Table Text Rule := .empty

namespace Desk

/-- Hands out the rule for a code.  A rule without a procedure cannot be made ready. -/
def fetch (desk : Desk) (code : Text) : Answer × Desk :=
  match desk.registry.rule? code with
  | none => (.rule none, desk)
  | some rule =>
    match desk.ready.get? code with
    | some made => (.rule (some made), desk)
    | none =>
      if rule.procedure.isSome then
        (.rule (some rule), { desk with ready := desk.ready.insert code rule })
      else (.refused (.incomplete rule.name), desk)

/-- Answers a request. -/
def serve (desk : Desk) : Request → Answer × Desk
  | .register rule =>
    match desk.registry.register rule with
    | .ok registry => (.accepted, { desk with registry })
    | .error e => (.refused e, desk)
  | .get code => desk.fetch code
  | .has code => (.known (desk.registry.has code), desk)
  | .codes => (.codes desk.registry.codes, desk)
  | .codesOf phase => (.codes (desk.registry.codesOf phase), desk)
  | .list => (.rules desk.registry.list, desk)

/-- The desk after some requests. -/
def after (desk : Desk) (requests : List Request) : Desk :=
  requests.foldl (fun desk request => (desk.serve request).2) desk

/-- The answers to some requests, one after the other. -/
def answers (desk : Desk) : List Request → List Answer
  | [] => []
  | request :: requests =>
    let (answer, desk) := desk.serve request
    answer :: desk.answers requests

end Desk

end Amend.Registry
