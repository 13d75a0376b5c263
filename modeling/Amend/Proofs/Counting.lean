import Amend.Proofs.PassOrder
import Mathlib.Data.List.Perm.Basic

/-!
# What a session counts

A session is used again and again, and remembers how many diagnostics of each code the last pass saw
and how many of them it fixed.  Three things are said about these numbers.

**They are those of the last pass.**  `Session.after` is a session after any requests.  A pass
depends on the session by its rules only, and these never change (`Session.fix_congr`,
`Session.registry_after`).

**No diagnostic is counted twice.**  A diagnostic has at most one fix (`codes_synthesize_sublist`),
a batch applies a fix at most once (`applied_sublist_sort`), the rule of a code belongs to one phase
(`Registry.phase_unique`), and each diagnostic is in one group (`Diagnostic.flatMap_under_perm`).
`Pass.count_step` is one group, and `Pass.count_run` the whole pass.

**Later output is measured by them.**  `Session.Disagreement` says which codes have more or fewer
diagnostics than should be left, in which order.
-/

namespace Amend

/-! ## Fixes -/

lemma Splice.applied_foldl_sublist (s : Snapshot) : ∀ (fixes : List Fix) (w : Splice),
    (fixes.foldl (step s) w).applied.Sublist (w.applied ++ fixes)
  | [], w => by simp
  | f :: fixes, w => by
      rw [List.foldl_cons]
      refine (applied_foldl_sublist s fixes (step s w f)).trans ?_
      rcases step_cases s w f with ⟨-, -, -, hskip⟩ | ⟨-, happly⟩
      · rw [hskip]
        exact (List.sublist_cons_self f fixes).append_left w.applied
      · rw [happly, List.append_assoc]
        exact List.Sublist.refl _

/-- **Every fix of a batch is applied at most once.** -/
lemma applied_sublist_sort (s : Snapshot) (fixes : List Fix) :
    (applyFixes s fixes).applied.Sublist (Fix.sort fixes) :=
  Splice.applied_foldl_sublist s (Fix.sort fixes) (.start s)

lemma count_applied_le (s : Snapshot) (fixes : List Fix) (code : Text) :
    ((applyFixes s fixes).applied.map Fix.code).count code ≤ (fixes.map Fix.code).count code := by
  have hsort : ((Fix.sort fixes).map Fix.code).Perm (fixes.map Fix.code) :=
    (Fix.perm_sort fixes).map Fix.code
  rw [← hsort.count_eq]
  exact ((applied_sublist_sort s fixes).map Fix.code).count_le code

/-- **Every diagnostic has at most one fix**, which is of its own code. -/
lemma codes_synthesize_sublist (reg : Registry) (s : Snapshot) : ∀ ds : List Diagnostic,
    ((reg.synthesize ds s).map Fix.code).Sublist (ds.map Diagnostic.code)
  | [] => .slnil
  | d :: ds => by
      have ih := codes_synthesize_sublist reg s ds
      rw [Registry.synthesize] at ih ⊢
      cases hedit : (reg.rule? d.code).bind (·.edit? d s) with
      | none =>
          rw [List.filterMap_cons_none (by rw [hedit]; rfl)]
          exact ih.cons _
      | some edit =>
          rw [List.filterMap_cons_some (by rw [hedit]; rfl)]
          exact ih.cons_cons _

/-! ## Phases -/

namespace Registry

variable {reg : Registry} {code : Text}

lemma mem_codesOf {phase : Phase} :
    code ∈ reg.codesOf phase ↔ ∃ rule, reg.rule? code = some rule ∧ rule.phase = phase := by
  rw [codesOf, List.mem_filter, codes, Text.sort_eq_insertionSort, List.mem_insertionSort,
    ← Table.isSome_get?_iff]
  show (reg.rule? code).isSome ∧ _ ↔ _
  cases reg.rule? code <;> simp

/-- The rule of a code belongs to one phase. -/
lemma phase_unique (h : code ∈ reg.codesOf .first) : code ∉ reg.codesOf .second := by
  rw [mem_codesOf] at h ⊢
  obtain ⟨rule, hrule, hfirst⟩ := h
  rintro ⟨rule', hrule', hsecond⟩
  obtain rfl : rule = rule' := Option.some.inj (hrule.symm.trans hrule')
  exact absurd (hfirst.symm.trans hsecond) (by decide)

lemma has_iff : reg.has code = true ↔ (reg.rule? code).isSome := by
  rw [rule?, Table.isSome_get?_iff]
  simp [has, Table.contains]

lemma has_of_mem_codesOf {phase : Phase} (h : code ∈ reg.codesOf phase) : reg.has code = true := by
  obtain ⟨rule, hrule, -⟩ := mem_codesOf.mp h
  exact has_iff.mpr (Option.isSome_iff_exists.mpr ⟨rule, hrule⟩)

end Registry

section

variable (reg : Registry) (own : List Diagnostic) (text code : Text)

/-- A phase fixes diagnostics of its own codes, and no more of them than there are. -/
lemma count_runPhase_le (phase : Phase) :
    ((runPhase reg phase own text).applied.map Fix.code).count code
      ≤ if code ∈ reg.codesOf phase then (own.map Diagnostic.code).count code else 0 := by
  set mine := own.filter fun d => (reg.codesOf phase).contains d.code with hmine
  have hfixes : ((runPhase reg phase own text).applied.map Fix.code).count code
      ≤ (mine.map Diagnostic.code).count code :=
    (count_applied_le _ _ code).trans
      ((codes_synthesize_sublist reg (.ofText text) mine).count_le code)
  refine hfixes.trans ?_
  split
  · exact (List.filter_sublist.map Diagnostic.code).count_le code
  · next hcode =>
    refine Nat.le_of_eq (List.count_eq_zero.mpr fun hmem => ?_)
    obtain ⟨d, hd, rfl⟩ := List.mem_map.mp hmem
    exact hcode (List.contains_iff_mem.mp (List.mem_filter.mp hd).2)

/-- **Both phases together** fix no more diagnostics of a code than there are, and none of a code
without a rule. -/
lemma count_treat_le : (treat reg own text).codes.count code
    ≤ if reg.has code then (own.map Diagnostic.code).count code else 0 := by
  set one := (treat reg own text).one
  set past := own.map (Diagnostic.pastFixes one.applied) with hpast
  have hcodes : past.map Diagnostic.code = own.map Diagnostic.code := by
    rw [hpast, List.map_map]
    rfl
  have hone := count_runPhase_le reg own text code .first
  have htwo := count_runPhase_le reg past one.content code .second
  rw [hcodes] at htwo
  rw [Treatment.codes, List.count_append]
  refine (Nat.add_le_add hone htwo).trans ?_
  by_cases hfirst : code ∈ reg.codesOf .first
  · rw [if_pos hfirst, if_neg (Registry.phase_unique hfirst),
      if_pos (Registry.has_of_mem_codesOf hfirst), Nat.add_zero]
  · by_cases hsecond : code ∈ reg.codesOf .second
    · rw [if_neg hfirst, if_pos hsecond, if_pos (Registry.has_of_mem_codesOf hsecond), Nat.zero_add]
    · rw [if_neg hfirst, if_neg hsecond]
      exact Nat.zero_le _

end

/-! ## Groups -/

namespace Diagnostic

/-- The groups of some files hold the diagnostics of these files. -/
lemma flatMap_under_perm_filter (ds : List Diagnostic) : ∀ files : List Text, files.Nodup →
    (files.flatMap (under ds)).Perm (ds.filter fun d => d.file ∈ files)
  | [], _ => by simp
  | file :: files, hnodup => by
      obtain ⟨hfile, hnodup⟩ := List.nodup_cons.mp hnodup
      have ih := flatMap_under_perm_filter ds files hnodup
      set mine := ds.filter fun d => d.file ∈ file :: files with hmine
      have hown : mine.filter (fun d => d.file = file) = under ds file := by
        rw [hmine, List.filter_filter, under]
        refine List.filter_congr fun d _ => ?_
        by_cases heq : d.file = file <;> simp [heq]
      have hothers : mine.filter (fun d => !decide (d.file = file))
          = ds.filter fun d => d.file ∈ files := by
        rw [hmine, List.filter_filter]
        refine List.filter_congr fun d _ => ?_
        by_cases heq : d.file = file
        · simp [heq, hfile]
        · simp [heq]
      rw [List.flatMap_cons]
      refine (ih.append_left _).trans ?_
      rw [← hown, ← hothers]
      exact List.filter_append_perm _ mine

/-- **Each diagnostic is in one group.** -/
lemma flatMap_under_perm (ds : List Diagnostic) : ((reported ds).flatMap (under ds)).Perm ds := by
  have hperm := flatMap_under_perm_filter ds (reported ds) (nodup_reported ds)
  have hall : ds.filter (fun d => d.file ∈ reported ds) = ds :=
    List.filter_eq_self.mpr fun d hd => decide_eq_true (mem_reported.mpr ⟨d, hd, rfl⟩)
  rwa [hall] at hperm

end Diagnostic

namespace Pass

variable (reg : Registry) (files : Table Text Text) (code : Text)

/-- One group: no number falls, and none grows by more than the group has diagnostics of its
code. -/
lemma count_step (pass : Pass) (group : Text × List Diagnostic) :
    pass.fixed.count code ≤ (step reg files pass group).fixed.count code ∧
      (step reg files pass group).fixed.count code ≤ pass.fixed.count code +
        if reg.has code then ((group.2.map Diagnostic.code).count code : Int) else 0 := by
  cases hkey : FileKey.find? files.keys group.1 with
  | none =>
      have hstep : (step reg files pass group).fixed = pass.fixed := by rw [step, hkey]
      rw [hstep]
      split <;> omega
  | some key =>
      set text := (pass.contents.get? key <|> files.get? key).getD []
      have hstep : (step reg files pass group).fixed
          = pass.fixed.tally (treat reg group.2 text).codes := by rw [step_of_find? pass hkey]
      have hle := count_treat_le reg group.2 text code
      rw [hstep, Counts.count_tally]
      split at hle
      · next hhas => rw [if_pos hhas]; omega
      · next hhas => rw [if_neg hhas]; omega

/-- Some groups, one after the other. -/
lemma count_foldl_step : ∀ (groups : List (Text × List Diagnostic)) (pass : Pass),
    pass.fixed.count code ≤ (groups.foldl (step reg files) pass).fixed.count code ∧
      (groups.foldl (step reg files) pass).fixed.count code ≤ pass.fixed.count code +
        if reg.has code then (((groups.flatMap (·.2)).map Diagnostic.code).count code : Int) else 0
  | [], pass => by
      simp only [List.foldl_nil]
      split <;> simp
  | group :: groups, pass => by
      have hgroup := count_step reg files code pass group
      have hgroups := count_foldl_step groups (step reg files pass group)
      rw [List.foldl_cons, List.flatMap_cons, List.map_append, List.count_append]
      split
      · next hhas =>
        rw [if_pos hhas] at hgroup hgroups
        omega
      · next hhas =>
        rw [if_neg hhas] at hgroup hgroups
        omega

/-- **A whole pass** fixes no more diagnostics of a code than there are, and none of a code without
a rule. -/
lemma count_run (ds : List Diagnostic) : 0 ≤ (run reg files ds).fixed.count code ∧
    (run reg files ds).fixed.count code
      ≤ if reg.has code then ((ds.map Diagnostic.code).count code : Int) else 0 := by
  have hgroups : (((Diagnostic.groupByFile ds).entries.flatMap (·.2)).map Diagnostic.code).count
      code = (ds.map Diagnostic.code).count code := by
    rw [Diagnostic.entries_groupByFile, List.flatMap_map]
    exact ((Diagnostic.flatMap_under_perm ds).map Diagnostic.code).count_eq code
  have hrun := count_foldl_step reg files code (Diagnostic.groupByFile ds).entries {}
  rw [hgroups, show ({} : Pass).fixed.count code = 0 from rfl, Int.zero_add] at hrun
  exact hrun

end Pass

/-! ## The counts in order -/

namespace Counts

/-- Each code has one entry, and the entries are in increasing order. -/
lemma pairwise_sorted (counts : Counts) :
    counts.sorted.Pairwise fun a b => Text.le a.1 b.1 = true ∧ a.1 ≠ b.1 := by
  rw [sorted_eq_insertionSort]
  have hnodup := ((List.perm_insertionSort (fun a b => Text.le a.1 b.1 = true)
    counts.entries).map Prod.fst).nodup_iff.mpr counts.nodup
  exact (List.pairwise_insertionSort _ counts.entries).and (List.pairwise_map.mp hnodup)

/-- The entries are the codes that occur, each with its number. -/
lemma mem_sorted_tally {codes : List Text} {code : Text} {n : Int} :
    (code, n) ∈ (tally .empty codes).sorted ↔ code ∈ codes ∧ n = codes.count code := by
  rw [sorted_eq_insertionSort, List.mem_insertionSort, ← Table.get?_eq_some_iff]
  by_cases hcode : code ∈ codes
  · rw [get?_tally_of_mem code codes _ hcode, count_empty, Int.zero_add, Option.some.injEq]
    exact ⟨fun h => ⟨hcode, h.symm⟩, fun h => h.2.symm⟩
  · rw [get?_tally_of_not_mem code codes _ hcode]
    simp [hcode]

end Counts

/-! ## Histories -/

namespace Session

/-- Something that a session is asked to do. -/
inductive Request where
  | fix (files : Table Text Text) (output : Option Text)
  | verify (output : Option Text)

/-- The session after a request. -/
def afterRequest (session : Session) : Request → Session
  | .fix files output => (session.fix files output).1
  | .verify _ => session

/-- The session after some requests. -/
def after (session : Session) (requests : List Request) : Session :=
  requests.foldl afterRequest session

/-- A pass depends on the session by its rules only. -/
lemma fix_congr {session session' : Session} (h : session.registry = session'.registry)
    (files : Table Text Text) (output : Option Text) :
    session.fix files output = session'.fix files output := by
  simp only [fix, h]

lemma registry_after : ∀ (requests : List Request) (session : Session),
    (session.after requests).registry = session.registry
  | [], _ => rfl
  | .fix files output :: requests, session => registry_after requests (session.fix files output).1
  | .verify _ :: requests, session => registry_after requests session

lemma after_verify (session : Session) : ∀ checks : List (Option Text),
    session.after (checks.map .verify) = session
  | [] => rfl
  | _ :: checks => after_verify session checks

/-- The number of diagnostics of a code in an output. -/
def reports (output : Option Text) (code : Text) : Nat :=
  ((Diagnostic.parse output).map Diagnostic.code).count code

/-- **A code disagrees with the last pass**: it has a rule and can be verified, and it occurs in
later output, but not as often as it was left. -/
structure Disagreement (session : Session) (output : Option Text) (code : Text) : Prop where
  has_rule : session.registry.has code = true
  verifiable : code ≠ "M0223"
  occurs : 0 < reports output code
  differs : (reports output code : Int) ≠ session.initial.count code - session.fixed.count code

lemma disagreement_iff {session : Session} {output : Option Text} {code : Text} :
    session.Disagreement output code ↔
      0 < reports output code ∧ session.disagrees code (reports output code) = true := by
  have hverifiable : unverifiable.contains code = false ↔ code ≠ "M0223" := by
    simp [unverifiable]
  rw [disagrees, Bool.and_eq_true, Bool.and_eq_true, Bool.not_eq_true', hverifiable,
    decide_eq_true_eq]
  exact ⟨fun h => ⟨h.occurs, ⟨h.verifiable, h.has_rule⟩, h.differs⟩,
    fun h => ⟨h.2.1.2, h.2.1.1, h.1, h.2.2⟩⟩

/-- **What is noted about later output**: one notice for each code that disagrees, in increasing
order of the codes. -/
lemma verify_eq (session : Session) (output : Option Text) : ∃ codes : List Text,
    codes.Pairwise (fun a b => Text.le a b = true ∧ a ≠ b) ∧
      (∀ code, code ∈ codes ↔ session.Disagreement output code) ∧
      session.verify output = codes.map fun code =>
        .mismatch code (reports output code) (session.initial.count code)
          (session.fixed.count code) := by
  set entries := (Diagnostic.countByCode (Diagnostic.parse output)).sorted.filter
    fun e => session.disagrees e.1 e.2 with hentries
  have hmem : ∀ {code n}, (code, n) ∈ entries ↔
      (0 < reports output code ∧ n = reports output code) ∧ session.disagrees code n = true := by
    intro code n
    rw [hentries, List.mem_filter, Diagnostic.countByCode, Counts.mem_sorted_tally, reports,
      List.count_pos_iff]
  refine ⟨entries.map Prod.fst, ?_, fun code => ?_, ?_⟩
  · exact List.pairwise_map.mpr ((Counts.pairwise_sorted _).filter _)
  · rw [disagreement_iff, List.mem_map]
    constructor
    · rintro ⟨⟨_, n⟩, he, rfl⟩
      obtain ⟨⟨hpos, rfl⟩, hdisagrees⟩ := hmem.mp he
      exact ⟨hpos, hdisagrees⟩
    · rintro ⟨hpos, hdisagrees⟩
      exact ⟨(code, _), hmem.mpr ⟨⟨hpos, rfl⟩, hdisagrees⟩, rfl⟩
  · rw [verify, List.map_map]
    refine List.map_congr_left fun e he => ?_
    obtain ⟨⟨-, hn⟩, -⟩ := hmem.mp (show (e.1, e.2) ∈ entries from he)
    rw [Function.comp_apply, ← hn]

/-- **The numbers of a session are those of its last pass**, whatever it was used for before and
however often they have been compared with output since.  No more diagnostics of a code are fixed
than were seen, and none of a code without a rule; later output is noted for exactly the codes that
disagree, in their order, and not at all if it holds what was left. -/
theorem fix_accounts (registry : Registry) (requests : List Request) (files : Table Text Text)
    (output : Option Text) (checks : List (Option Text)) :
    let fresh : Session := { registry }
    let session := fresh.after (requests ++ .fix files output :: checks.map .verify)
    (fresh.after requests).fix files output = fresh.fix files output ∧
      session = (fresh.fix files output).1 ∧
      (∀ code, session.initial.count code = reports output code ∧
        0 ≤ session.fixed.count code ∧ session.fixed.count code ≤ session.initial.count code ∧
        (registry.has code = false → session.fixed.count code = 0)) ∧
      ∀ later : Option Text,
        (∃ codes : List Text, codes.Pairwise (fun a b => Text.le a b = true ∧ a ≠ b) ∧
          (∀ code, code ∈ codes ↔ session.Disagreement later code) ∧
          session.verify later = codes.map fun code =>
            .mismatch code (reports later code) (session.initial.count code)
              (session.fixed.count code)) ∧
        ((∀ code, (reports later code : Int)
            = session.initial.count code - session.fixed.count code) →
          session.verify later = []) := by
  intro fresh session
  have hfix : (fresh.after requests).fix files output = fresh.fix files output :=
    fix_congr (registry_after requests fresh) files output
  have hsession : session = (fresh.fix files output).1 := by
    rw [← hfix, ← after_verify ((fresh.after requests).fix files output).1 checks]
    exact List.foldl_append
  refine ⟨hfix, hsession, fun code => ?_, fun later => ⟨session.verify_eq later, fun hleft => ?_⟩⟩
  · have hinitial : session.initial.count code = reports output code := by
      rw [hsession]
      exact (Counts.count_tally _ _ code).trans (Int.zero_add _)
    have hfixed : session.fixed.count code
        = (Pass.run registry files (Diagnostic.parse output)).fixed.count code := by
      rw [hsession]
      rfl
    obtain ⟨hnonneg, hle⟩ := Pass.count_run registry files code (Diagnostic.parse output)
    rw [← hfixed] at hnonneg hle
    refine ⟨hinitial, hnonneg, ?_, fun hhas => ?_⟩
    · rw [hinitial, reports]
      split at hle <;> omega
    · rw [hhas] at hle
      exact Int.le_antisymm hle hnonneg
  · obtain ⟨codes, -, hcodes, hverify⟩ := session.verify_eq later
    have hnil : codes = [] := List.eq_nil_iff_forall_not_mem.mpr fun code hcode =>
      ((hcodes code).mp hcode).differs (hleft code)
    rw [hverify, hnil]
    rfl

/-- What was done with a session before its last pass. -/
def reusedRequests : List Request :=
  [.fix (.ofList [("B.mo", "h<U>(z)")]) "B.mo:1.2-1.5: warning [M0223], t",
    .verify "B.mo:1.2-1.5: warning [M0236], t"]

/-- Two calls are reported, one of which is none; and something for which there is no rule. -/
def reusedOutput : Text :=
  "A.mo:1.4-1.7: warning [M0223], t\nA.mo:1.1-1.13: warning [M0236], d\n" ++
    "A.mo:1.8-1.9: warning [M0236], d\nA.mo:1.1-1.2: warning [M0194], u"

def reusedSession : Session :=
  ({} : Session).after (reusedRequests ++
    .fix (.ofList [("A.mo", "M.f<T>(x, y)")]) reusedOutput :: [.verify none])

theorem fix_accounts_reused :
    let left : Text := "A.mo:1.1-1.2: warning [M0236], d\nA.mo:1.1-1.2: warning [M0194], u"
    let all : Text := "A.mo:1.1-1.2: warning [M0236], d\nA.mo:1.1-1.7: warning [M0236], d"
    reusedSession.fixed = .ofList [("M0223", 1), ("M0236", 1)] ∧
      reusedSession.fixed.count "M0194" = 0 ∧ reusedSession.verify left = [] ∧
      reusedSession.verify all = [.mismatch "M0236" 2 2 1] := by
  intro left all
  obtain ⟨-, -, hcounts, hverify⟩ := fix_accounts .standard reusedRequests
    (.ofList [("A.mo", "M.f<T>(x, y)")]) reusedOutput [none]
  let done : List Text := ["M0223", "M0236"]
  have hfacts : reusedSession.fixed = Counts.tally .empty done ∧
      reusedSession.fixed = .ofList [("M0223", 1), ("M0236", 1)] ∧
      ((Diagnostic.parse reusedOutput).map Diagnostic.code).Perm
        ((Diagnostic.parse left).map Diagnostic.code ++ done) ∧
      Registry.standard.has "M0194" = false ∧
      reusedSession.verify all = [.mismatch "M0236" 2 2 1] := by decide +kernel
  obtain ⟨htally, hfixed, hperm, hrule, hall⟩ := hfacts
  refine ⟨hfixed, (hcounts "M0194").2.2.2 hrule, (hverify left).2 fun code => ?_, hall⟩
  show _ = reusedSession.initial.count code - reusedSession.fixed.count code
  have hinitial : reusedSession.initial.count code = reports reusedOutput code := (hcounts code).1
  have hcount := hperm.count_eq code
  rw [List.count_append] at hcount
  rw [hinitial, htally, Counts.count_tally, Counts.count_empty, reports, reports, hcount]
  omega

end Session

end Amend
