import Amend.Proofs.Counting
import Amend.Rule.Desk

/-!
# A registry in use

A registry is asked for rules, and given further ones, in any order.  It may refuse a rule, and a
rule that it hands out is made ready only when it is first asked for.  The order of the requests has
no influence on what it says, apart from which of two rules for one code came first.

**The rules.**  `Registry.Keyed` holds of every registry that rules have been given to: each rule
stands under its own code and belongs to one of the two phases.  From this alone follow the order of
the lists (`pairwise_codes`, `Keyed.map_code_list`) and the division of the codes into the two phases
(`phases_disjoint`, `Keyed.phases_perm`).  A pass divides the diagnostics of a file accordingly:
`Registry.share` is what a phase gets of them, and `Pass.step_share` says that it sees nothing else.

**The requests.**  `Desk.rule?_serve` says which rules the registry has after a request, and
`Desk.rule?_after` after any number of them: for each code the first one that was offered and could
be accepted.  `Desk.Sound` says that what is ready is what the registry has, so nobody can tell
whether a rule was ready before (`Desk.Sound.serve_get`).
-/

namespace Amend

lemma Phase.isKnown_iff {p : Phase} : p.isKnown = true ↔ p = .first ∨ p = .second := by
  simp [Phase.isKnown]

namespace Registry

variable {reg reg' : Registry} {rule : Rule} {code : Text}

/-! ## Giving rules to a registry -/

lemma has_eq_false_iff : reg.has code = false ↔ reg.rule? code = none := by
  rw [← Bool.not_eq_true, has_iff, Option.not_isSome_iff_eq_none]

/-- **Every rule stands under its own code**, which is not empty, and belongs to one of the two
phases. -/
def Keyed (reg : Registry) : Prop :=
  ∀ code rule, reg.rule? code = some rule →
    rule.code = code ∧ code ≠ [] ∧ (rule.phase = .first ∨ rule.phase = .second)

lemma keyed_empty : Keyed .empty := by
  intro code rule hrule
  cases hrule

lemma Keyed.register (hreg : reg.Keyed) (h : reg.register rule = .ok reg') : reg'.Keyed := by
  obtain ⟨⟨hcode, hphase, -⟩, -⟩ := register_eq_ok_iff.mp h
  intro code holder hholder
  rw [rule?_of_register h] at hholder
  split at hholder
  · next heq =>
    cases hholder
    exact ⟨heq.symm, heq ▸ hcode, Phase.isKnown_iff.mp hphase⟩
  · exact hreg code holder hholder

/-- **No rule of this library is refused**: all of them have a procedure. -/
lemma get?_standard (code : Text) :
    Registry.standard.get? code = .ok (Registry.standard.rule? code) := by
  have hall : ∀ e ∈ Registry.standard.rules.entries, e.2.procedure.isSome = true := by decide
  rw [get?]
  cases hrule : Registry.standard.rule? code with
  | none => rfl
  | some rule => exact if_pos (hall _ (Table.get?_eq_some_iff.mp hrule))

/-! ## The lists -/

lemma mem_codes_iff : code ∈ reg.codes ↔ reg.has code = true := by
  rw [has_iff, rule?, Table.isSome_get?_iff, codes, Text.sort_eq_insertionSort,
    List.mem_insertionSort]

lemma nodup_codes (reg : Registry) : reg.codes.Nodup := by
  rw [codes, Text.sort_eq_insertionSort]
  exact (List.perm_insertionSort _ reg.rules.keys).nodup_iff.mpr reg.rules.nodup

/-- **The codes are listed in increasing order**, each once. -/
lemma pairwise_codes (reg : Registry) :
    reg.codes.Pairwise fun a b => Text.le a b = true ∧ a ≠ b := by
  have hsorted : reg.codes.Pairwise fun a b => Text.le a b = true := by
    rw [codes, Text.sort_eq_insertionSort]
    exact List.pairwise_insertionSort _ reg.rules.keys
  exact hsorted.and reg.nodup_codes

/-- **The rules are listed in the order of the codes**: to each code its rule. -/
lemma map_some_list (reg : Registry) : reg.list.map some = reg.codes.map reg.rule? := by
  have hall : ∀ code ∈ reg.codes, (reg.rule? code).isSome := fun code hcode =>
    has_iff.mp (mem_codes_iff.mp hcode)
  rw [list]
  generalize reg.codes = codes at hall
  induction codes with
  | nil => rfl
  | cons code codes ih =>
      obtain ⟨rule, hrule⟩ := Option.isSome_iff_exists.mp (hall code List.mem_cons_self)
      rw [List.filterMap_cons_some hrule, List.map_cons, List.map_cons, hrule,
        ih fun code hcode => hall code (List.mem_cons_of_mem _ hcode)]

lemma Keyed.map_code_list (hreg : reg.Keyed) : reg.list.map Rule.code = reg.codes := by
  have hcodes : (reg.list.map some).map (Option.map Rule.code) = reg.codes.map some := by
    rw [map_some_list, List.map_map]
    refine List.map_congr_left fun code hcode => ?_
    obtain ⟨rule, hrule⟩ := Option.isSome_iff_exists.mp (has_iff.mp (mem_codes_iff.mp hcode))
    rw [Function.comp_apply, hrule, Option.map_some, (hreg code rule hrule).1]
  rw [List.map_map] at hcodes
  exact List.map_injective_iff.mpr (Option.some_injective Text) <| by
    rw [List.map_map]
    exact hcodes

/-! ## The two phases -/

lemma phases_disjoint (reg : Registry) :
    (reg.codesOf .first).Disjoint (reg.codesOf .second) := fun _ hfirst => phase_unique hfirst

lemma Keyed.not_first_iff (hreg : reg.Keyed) (hcode : reg.has code = true) :
    code ∉ reg.codesOf .first ↔ code ∈ reg.codesOf .second := by
  refine ⟨fun hfirst => ?_, fun hsecond hfirst => phase_unique hfirst hsecond⟩
  obtain ⟨rule, hrule⟩ := Option.isSome_iff_exists.mp (has_iff.mp hcode)
  rcases (hreg code rule hrule).2.2 with hphase | hphase
  · exact absurd (mem_codesOf.mpr ⟨rule, hrule, hphase⟩) hfirst
  · exact mem_codesOf.mpr ⟨rule, hrule, hphase⟩

/-- The diagnostics that a phase gets of those for one file. -/
def share (reg : Registry) (phase : Phase) (ds : List Diagnostic) : List Diagnostic :=
  ds.filter fun d => (reg.codesOf phase).contains d.code

/-- What has a code with a rule belongs to one of the phases and not to the other. -/
lemma Keyed.filter_perm {α : Type} (hreg : reg.Keyed) (codeOf : α → Text) (l : List α) :
    (l.filter (fun a => (reg.codesOf .first).contains (codeOf a)) ++
      l.filter (fun a => (reg.codesOf .second).contains (codeOf a))).Perm
        (l.filter fun a => reg.has (codeOf a)) := by
  set mine := l.filter fun a => reg.has (codeOf a) with hmine
  have hfirst : l.filter (fun a => (reg.codesOf .first).contains (codeOf a))
      = mine.filter fun a => (reg.codesOf .first).contains (codeOf a) := by
    rw [hmine, List.filter_filter]
    refine List.filter_congr fun a _ => ?_
    by_cases h : codeOf a ∈ reg.codesOf .first
    · simp [h, has_of_mem_codesOf h]
    · simp [h]
  have hsecond : l.filter (fun a => (reg.codesOf .second).contains (codeOf a))
      = mine.filter fun a => !(reg.codesOf .first).contains (codeOf a) := by
    rw [hmine, List.filter_filter]
    refine List.filter_congr fun a _ => ?_
    by_cases hhas : reg.has (codeOf a) = true
    · by_cases h : codeOf a ∈ reg.codesOf .second
      · simp [h, hhas, (hreg.not_first_iff hhas).mpr h]
      · simp [h, hhas, not_not.mp (mt (hreg.not_first_iff hhas).mp h)]
    · have h : codeOf a ∉ reg.codesOf .second := fun h => hhas (has_of_mem_codesOf h)
      simp [h, hhas]
  rw [hfirst, hsecond]
  exact List.filter_append_perm _ mine

/-- **The codes of the two phases** are all codes. -/
lemma Keyed.phases_perm (hreg : reg.Keyed) :
    (reg.codesOf .first ++ reg.codesOf .second).Perm reg.codes := by
  have hphase : ∀ phase,
      reg.codesOf phase = reg.codes.filter fun code => (reg.codesOf phase).contains code := by
    intro phase
    refine List.filter_congr fun code hcode => ?_
    rw [Bool.eq_iff_iff, List.contains_iff_mem, codesOf, List.mem_filter]
    exact ⟨fun h => ⟨hcode, h⟩, And.right⟩
  have hall : reg.codes.filter (fun code => reg.has code) = reg.codes :=
    List.filter_eq_self.mpr fun code hcode => mem_codes_iff.mp hcode
  have hperm := hreg.filter_perm id reg.codes
  rw [show reg.codes.filter (fun code => reg.has (id code)) = reg.codes from hall] at hperm
  rw [hphase .first, hphase .second]
  exact hperm

end Registry

/-! ## The two phases of a pass -/

lemma runPhase_share (reg : Registry) (phase : Phase) (ds : List Diagnostic) (text : Text) :
    runPhase reg phase (reg.share phase ds) text = runPhase reg phase ds text := by
  rw [runPhase_eq, runPhase_eq, phaseFixes, phaseFixes, Registry.share, List.filter_filter]
  simp only [Bool.and_self]

/-- Moving the positions of diagnostics does not move them to another phase. -/
lemma Registry.share_pastFixes (reg : Registry) (phase : Phase) (fixes : List Fix)
    (ds : List Diagnostic) :
    reg.share phase (ds.map (Diagnostic.pastFixes fixes))
      = (reg.share phase ds).map (Diagnostic.pastFixes fixes) := by
  rw [share, share, List.filter_map]
  rfl

/-- **Each phase of a pass sees its own share** of the diagnostics of a file. -/
lemma Pass.step_share (reg : Registry) {files : Table Text Text} (pass : Pass) {name key : Text}
    (ds : List Diagnostic) (hkey : FileKey.find? files.keys name = some key) :
    let text := (pass.contents.get? key <|> files.get? key).getD []
    let one := runPhase reg .first (reg.share .first ds) text
    let two := runPhase reg .second
      ((reg.share .second ds).map (Diagnostic.pastFixes one.applied)) one.content
    (step reg files pass (name, ds)).contents = pass.contents.insert key two.content ∧
      (step reg files pass (name, ds)).fixed = two.countInto (one.countInto pass.fixed) := by
  intro text one two
  have hone : one = runPhase reg .first ds text := runPhase_share reg .first ds text
  have htwo : two =
      runPhase reg .second (ds.map (Diagnostic.pastFixes one.applied)) one.content := by
    rw [← runPhase_share, Registry.share_pastFixes]
  rw [step, hkey, htwo, hone]
  exact ⟨rfl, rfl⟩

namespace Registry

/-! ## Requests -/

/-- The rule that a request offers for a code, provided that a registry can accept it. -/
def Request.offer? (code : Text) : Request → Option Rule
  | register rule =>
    if rule.code = code ∧ code ≠ [] ∧ rule.phase.isKnown = true then some rule else none
  | _ => none

/-- The answer to a question for a rule. -/
def Answer.ofRule : Except RegistryError (Option Rule) → Answer
  | .ok found => .rule found
  | .error e => .refused e

namespace Desk

variable {desk : Desk} {registry : Registry} {rule : Rule} {request : Request}

/-! ## What a request changes -/

lemma serve_register_of_ok (h : desk.registry.register rule = .ok registry) :
    desk.serve (.register rule) = (.accepted, { desk with registry }) := by
  rw [serve, h]

lemma serve_register_of_error {e : RegistryError} (h : desk.registry.register rule = .error e) :
    desk.serve (.register rule) = (.refused e, desk) := by
  rw [serve, h]

/-- A question for a rule changes nothing, or makes the rule ready. -/
lemma fetch_cases (desk : Desk) (code : Text) :
    (desk.fetch code).2 = desk ∨
      ∃ rule, desk.registry.rule? code = some rule ∧ rule.procedure.isSome ∧
        (desk.fetch code).2 = { desk with ready := desk.ready.insert code rule } := by
  rw [fetch]
  split
  · exact .inl rfl
  · next rule hrule =>
    split
    · exact .inl rfl
    · split
      · next hready => exact .inr ⟨rule, hrule, hready, rfl⟩
      · exact .inl rfl

lemma registry_fetch (desk : Desk) (code : Text) :
    (desk.fetch code).2.registry = desk.registry := by
  obtain hsame | ⟨rule, -, -, hsame⟩ := desk.fetch_cases code <;> rw [hsame]

/-- **The rules after a request.**  What the registry has, it keeps; what is offered for a code
without a rule, it takes. -/
lemma rule?_serve (desk : Desk) (request : Request) (code : Text) :
    (desk.serve request).2.registry.rule? code
      = (desk.registry.rule? code).or (request.offer? code) := by
  cases request with
  | register rule =>
      cases hreg : desk.registry.register rule with
      | ok registry =>
          obtain ⟨⟨hcode, hphase, hfree⟩, -⟩ := register_eq_ok_iff.mp hreg
          rw [serve_register_of_ok hreg, rule?_of_register hreg]
          by_cases heq : code = rule.code
          · subst heq
            rw [if_pos rfl, hfree, Option.none_or, Request.offer?, if_pos ⟨rfl, hcode, hphase⟩]
          · rw [if_neg heq, Request.offer?, if_neg fun h => heq h.1.symm, Option.or_none]
      | error e =>
          rw [serve_register_of_error hreg]
          cases hrule : desk.registry.rule? code with
          | some holder => rfl
          | none =>
              -- A rule that could be accepted for the code would have been.
              rw [Option.none_or, Request.offer?, if_neg]
              rintro ⟨rfl, hcode, hphase⟩
              rw [register_eq_ok_iff.mpr ⟨⟨hcode, hphase, hrule⟩, rfl⟩] at hreg
              cases hreg
  | get code' => rw [serve, registry_fetch]; exact (Option.or_none).symm
  | has code' => exact (Option.or_none).symm
  | codes => exact (Option.or_none).symm
  | codesOf phase => exact (Option.or_none).symm
  | list => exact (Option.or_none).symm

/-- **Which rule answers for a code** after some requests: the one from before, or else the first
one that was offered for it and could be accepted. -/
lemma rule?_after (code : Text) : ∀ (requests : List Request) (desk : Desk),
    (desk.after requests).registry.rule? code
      = (desk.registry.rule? code).or (requests.findSome? (Request.offer? code))
  | [], _ => (Option.or_none).symm
  | request :: requests, desk => by
      have hrest := rule?_after code requests (desk.serve request).2
      rw [rule?_serve, Option.or_assoc] at hrest
      rw [List.findSome?_cons]
      refine hrest.trans (congrArg _ ?_)
      cases request.offer? code <;> rfl

lemma rule?_after_of_some {code : Text} (h : desk.registry.rule? code = some rule)
    (requests : List Request) : (desk.after requests).registry.rule? code = some rule := by
  rw [rule?_after, h, Option.some_or]

/-! ## What is ready -/

/-- **What is ready under a code** is the rule that the registry has for it, and has a procedure. -/
structure Sound (desk : Desk) : Prop where
  keyed : desk.registry.Keyed
  ready : ∀ code rule, desk.ready.get? code = some rule →
    desk.registry.rule? code = some rule ∧ rule.procedure.isSome

lemma sound_start : Sound {} := ⟨keyed_empty, fun _ _ h => by cases h⟩

namespace Sound

/-- A rule that is made ready is the one that the registry has. -/
lemma fetch (h : desk.Sound) (code : Text) : (desk.fetch code).2.Sound := by
  obtain hsame | ⟨rule, hrule, hready, hmade⟩ := desk.fetch_cases code
  · rwa [hsame]
  · rw [hmade]
    refine ⟨h.keyed, fun code' made hget => ?_⟩
    rw [Table.get?_insert] at hget
    split at hget
    · next heq =>
      cases hget
      exact ⟨heq ▸ hrule, hready⟩
    · exact h.ready code' made hget

/-- **The invariant of a request.**  An accepted rule is no other rule for a code under which one is
ready, since the registry has none for it. -/
lemma serve (h : desk.Sound) (request : Request) : (desk.serve request).2.Sound := by
  cases request with
  | register rule =>
      cases hreg : desk.registry.register rule with
      | ok registry =>
          refine ⟨?_, fun code made hget => ?_⟩
          · rw [serve_register_of_ok hreg]
            exact h.keyed.register hreg
          · rw [serve_register_of_ok hreg] at hget
            obtain ⟨hrule, hready⟩ := h.ready code made hget
            rw [rule?_serve, hrule]
            exact ⟨rfl, hready⟩
      | error e => rwa [serve_register_of_error hreg]
  | get code => exact h.fetch code
  | has code => exact h
  | codes => exact h
  | codesOf phase => exact h
  | list => exact h

/-- **The invariant of all requests.** -/
lemma after : ∀ (requests : List Request) {desk : Desk}, desk.Sound → (desk.after requests).Sound
  | [], _, h => h
  | request :: requests, _, h => after requests (h.serve request)

/-- **Nobody can tell what was ready before**: a question for a rule is answered as by the registry
alone. -/
lemma serve_get (h : desk.Sound) (code : Text) :
    (desk.serve (.get code)).1 = .ofRule (desk.registry.get? code) := by
  show (desk.fetch code).1 = _
  rw [Desk.fetch, Registry.get?]
  cases hrule : desk.registry.rule? code with
  | none => rfl
  | some rule =>
      cases hget : desk.ready.get? code with
      | none =>
          show (if rule.procedure.isSome then _ else _ : Answer × Desk).1
            = .ofRule (if _ then _ else _)
          split <;> rfl
      | some made =>
          obtain ⟨hsame, hready⟩ := h.ready code made hget
          obtain rfl : rule = made := Option.some.inj (hrule.symm.trans hsame)
          simp only [hready, if_true]
          rfl

end Sound

/-! ## All requests together -/

lemma serve_register_eq_accepted_iff : (desk.serve (.register rule)).1 = .accepted ↔
    rule.code ≠ [] ∧ (rule.phase = .first ∨ rule.phase = .second) ∧
      desk.registry.has rule.code = false := by
  rw [has_eq_false_iff, ← Phase.isKnown_iff]
  cases hreg : desk.registry.register rule with
  | ok registry =>
      rw [serve_register_of_ok hreg]
      exact ⟨fun _ => (register_eq_ok_iff.mp hreg).1, fun _ => rfl⟩
  | error e =>
      rw [serve_register_of_error hreg]
      refine ⟨(nomatch ·), fun h => ?_⟩
      rw [register_eq_ok_iff.mpr ⟨h, rfl⟩] at hreg
      cases hreg

lemma serve_register_of_ne_accepted (h : (desk.serve (.register rule)).1 ≠ .accepted) :
    (desk.serve (.register rule)).2 = desk := by
  cases hreg : desk.registry.register rule with
  | ok registry => exact absurd (congrArg Prod.fst (serve_register_of_ok hreg)) h
  | error e => rw [serve_register_of_error hreg]

/-- **A registry after any requests.**

* A rule is accepted exactly if it has a code, belongs to the first or the second phase, and there is
  no rule for its code yet.  A rule that is refused changes no later answer.
* The rule for a code is the first acceptable one that was offered for it, and stays so.  Questions
  for it are answered as if nothing had to be made ready.
* The codes are listed in increasing order, and the rules in the order of the codes.
* The two phases divide the codes among them.  When a pass treats a file, each diagnostic with a rule
  is seen by one phase, once, and no other diagnostic is seen at all. -/
theorem after_in_order (requests : List Request) :
    let desk := Desk.after {} requests
    let reg := desk.registry
    ((∀ rule, (desk.serve (.register rule)).1 = .accepted ↔
        rule.code ≠ [] ∧ (rule.phase = .first ∨ rule.phase = .second) ∧
          reg.has rule.code = false) ∧
      ∀ rule later, (desk.serve (.register rule)).1 ≠ .accepted →
        (desk.serve (.register rule)).2.answers later = desk.answers later) ∧
    ((∀ code, reg.rule? code = requests.findSome? (Request.offer? code)) ∧
      (∀ code rule later, reg.rule? code = some rule →
        (desk.after later).registry.rule? code = some rule ∧
          ((desk.after later).serve (.get code)).1 = (desk.serve (.get code)).1) ∧
      ∀ code, (desk.serve (.get code)).1 = .ofRule (reg.get? code)) ∧
    ((reg.codes.Pairwise fun a b => Text.le a b = true ∧ a ≠ b) ∧
      (∀ code, code ∈ reg.codes ↔ reg.has code = true) ∧
      reg.list.map some = reg.codes.map reg.rule? ∧ reg.list.map Rule.code = reg.codes) ∧
    (reg.codesOf .first).Disjoint (reg.codesOf .second) ∧
    (reg.codesOf .first ++ reg.codesOf .second).Perm reg.codes ∧
    ∀ (files : Table Text Text) (pass : Pass) (name key : Text) (ds : List Diagnostic),
      FileKey.find? files.keys name = some key →
        let text := (pass.contents.get? key <|> files.get? key).getD []
        let one := runPhase reg .first (reg.share .first ds) text
        let two := runPhase reg .second
          ((reg.share .second ds).map (Diagnostic.pastFixes one.applied)) one.content
        (reg.share .first ds ++ reg.share .second ds).Perm (ds.filter fun d => reg.has d.code) ∧
          (Pass.step reg files pass (name, ds)).contents
            = pass.contents.insert key two.content ∧
          (Pass.step reg files pass (name, ds)).fixed
            = two.countInto (one.countInto pass.fixed) := by
  intro desk reg
  have hsound : desk.Sound := Sound.after requests sound_start
  have hkeyed : reg.Keyed := hsound.keyed
  refine ⟨⟨fun rule => serve_register_eq_accepted_iff, fun rule later hrefused => ?_⟩,
    ⟨fun code => ?_, fun code rule later hrule => ?_, hsound.serve_get⟩,
    ⟨reg.pairwise_codes, fun code => mem_codes_iff, reg.map_some_list, hkeyed.map_code_list⟩,
    reg.phases_disjoint, hkeyed.phases_perm, fun files pass name key ds hkey => ?_⟩
  · rw [serve_register_of_ne_accepted hrefused]
  · exact (rule?_after code requests {}).trans Option.none_or
  · have hlater := rule?_after_of_some hrule later
    refine ⟨hlater, ?_⟩
    rw [(Sound.after later hsound).serve_get, hsound.serve_get, Registry.get?, Registry.get?, hlater,
      hrule]
  · exact ⟨hkeyed.filter_perm Diagnostic.code ds, Pass.step_share reg pass ds hkey⟩

/-- A second rule for a code is refused, although the first one has been made ready since; so is a
rule of a third phase.  Both accepted rules have a share of the diagnostics of a file. -/
theorem after_in_order_refusals :
    let again : Rule := { name := "Again", code := "M0236", phase := .first }
    let third : Rule := { name := "Third", code := "M0300", phase := .number 3 }
    let desk := Desk.after {} [.register .dotNotation, .get "M0236", .register again,
      .register third, .register .typeInstantiation]
    let reg := desk.registry
    let files : Table Text Text := .ofList [("Main.mo", "f<A>(x)")]
    let ds : List Diagnostic :=
      [⟨"Main.mo", .ofCoords 0 0 0 7, "M0236", "dot", .warning⟩,
        ⟨"Main.mo", .ofCoords 0 0 0 1, "M0194", "unused", .warning⟩,
        ⟨"Main.mo", .ofCoords 0 1 0 4, "M0223", "type", .warning⟩]
    ((desk.serve (.register again)).1 ≠ .accepted ∧
      (desk.serve (.register again)).2.answers [.get "M0236", .list]
        = desk.answers [.get "M0236", .list]) ∧
    (reg.rule? "M0236" = some .dotNotation ∧
      (desk.after [.register again]).registry.rule? "M0236" = some .dotNotation) ∧
    reg.list.map Rule.code = ["M0223", "M0236"] ∧
    FileKey.find? files.keys "./Main.mo" = some "Main.mo" ∧
    (reg.share .first ds ++ reg.share .second ds).Perm (ds.filter fun d => reg.has d.code) := by
  intro again third desk reg files ds
  obtain ⟨⟨-, hrefused⟩, ⟨-, hkept, -⟩, ⟨-, -, -, hlist⟩, -, -, hpass⟩ :=
    after_in_order [.register .dotNotation, .get "M0236", .register again, .register third,
      .register .typeInstantiation]
  have hagain : (desk.serve (.register again)).1 ≠ .accepted := nofun
  have hfirst : reg.rule? "M0236" = some .dotNotation := rfl
  have hkey : FileKey.find? files.keys "./Main.mo" = some "Main.mo".toList := by decide
  exact ⟨⟨hagain, hrefused again _ hagain⟩,
    ⟨hfirst, (hkept _ _ [.register again] hfirst).1⟩, hlist.trans (by decide), hkey,
    (hpass files {} _ _ ds hkey).1⟩

end Desk

end Registry

end Amend
