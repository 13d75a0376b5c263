import Amend.Proofs.Batch
import Amend.Proofs.Rounds
import Mathlib.Data.List.Induction
import Mathlib.Tactic.Set

/-!
# A pass does not depend on the order of its diagnostics

Between the lines of a compiler and the texts that a pass leaves there are four places at which the
order of the lines could matter.  Each of them is described here without an order.

* **Groups.**  `entries_groupByFile`: the groups are the reported files, each with the diagnostics
  under its name.
* **Fixes.**  `applyFixes_perm`: a batch is sorted before it is applied, so its order is forgotten
  if different fixes start at different positions.  `treat` is both phases on one text, and
  `treat_perm` follows.
* **Texts.**  A group goes on with the text that an earlier one has left, if both lead to the same
  supplied file.  `OneSpelling` excludes this, and then every group works on the supplied text
  (`Pass.foldl_step`).
* **Counts.**  `Counts.tally_perm`.
-/

namespace Amend

/-! ## Tables and counts up to order -/

lemma Table.get?_eq_of_perm {κ α : Type} [DecidableEq κ] {s t : Table κ α}
    (h : s.entries.Perm t.entries) (k : κ) : s.get? k = t.get? k := by
  ext v
  rw [get?_eq_some_iff, get?_eq_some_iff, h.mem_iff]

lemma Table.isEmpty_iff {κ α : Type} [DecidableEq κ] {t : Table κ α} :
    t.isEmpty ↔ ∀ k, t.get? k = none := by
  simp only [get?_eq_none_iff, ← List.eq_nil_iff_forall_not_mem, keys, List.map_eq_nil_iff]
  exact List.isEmpty_iff

lemma Table.get?_ofList_perm {κ α : Type} [DecidableEq κ] {es es' : List (κ × α)}
    (h : es.Perm es') (hnodup : (es.map Prod.fst).Nodup) (k : κ) :
    (Table.ofList es).get? k = (Table.ofList es').get? k := by
  have hnodup' : (es'.map Prod.fst).Nodup := (h.map Prod.fst).nodup_iff.mp hnodup
  have hes := get?_insertAll .empty ⟨es, hnodup⟩ k
  have hes' := get?_insertAll .empty ⟨es', hnodup'⟩ k
  rw [get?_eq_of_perm (s := ⟨es, hnodup⟩) (t := ⟨es', hnodup'⟩) h] at hes
  exact hes.trans hes'.symm

namespace Counts

lemma tally_append (counts : Counts) (codes codes' : List Text) :
    counts.tally (codes ++ codes') = (counts.tally codes).tally codes' := List.foldl_append

lemma get?_tally_of_mem (x : Text) : ∀ (codes : List Text) (counts : Counts), x ∈ codes →
    (counts.tally codes).get? x = some (counts.count x + codes.count x)
  | code :: codes, counts, h => by
      have hstep : counts.tally (code :: codes) = (counts.add code 1).tally codes := rfl
      by_cases hmem : x ∈ codes
      · rw [hstep, get?_tally_of_mem x codes _ hmem, count_add, List.count_cons]
        by_cases hx : x = code
        · simp [hx, Int.add_assoc, Int.add_comm]
        · simp [hx, Ne.symm hx]
      · obtain rfl : x = code := (List.mem_cons.mp h).resolve_right hmem
        rw [hstep, get?_tally_of_not_mem x codes _ hmem, add, Table.get?_insert, if_pos rfl]
        simp [List.count_eq_zero_of_not_mem hmem]

lemma tally_perm {codes codes' : List Text} (h : codes.Perm codes') (counts : Counts) (x : Text) :
    (counts.tally codes).get? x = (counts.tally codes').get? x := by
  by_cases hx : x ∈ codes
  · rw [get?_tally_of_mem x codes _ hx, get?_tally_of_mem x codes' _ (h.mem_iff.mp hx),
      h.count_eq]
  · rw [get?_tally_of_not_mem x codes _ hx,
      get?_tally_of_not_mem x codes' _ (mt h.mem_iff.mpr hx)]

end Counts

/-! ## Groups -/

namespace Diagnostic

/-- The reported files, in order of first appearance. -/
def reported (ds : List Diagnostic) : List Text := (ds.map Diagnostic.file).eraseDups

/-- The diagnostics that were reported under a path. -/
def under (ds : List Diagnostic) (file : Text) : List Diagnostic := ds.filter (·.file = file)

lemma mem_reported {ds : List Diagnostic} {file : Text} :
    file ∈ reported ds ↔ ∃ d ∈ ds, d.file = file := by
  rw [reported, List.mem_eraseDups, List.mem_map]

lemma under_eq_nil {ds : List Diagnostic} {file : Text} (h : file ∉ reported ds) :
    under ds file = [] := by
  rw [under, List.filter_eq_nil_iff]
  intro d hd hfile
  exact h (mem_reported.mpr ⟨d, hd, of_decide_eq_true hfile⟩)

lemma reported_concat (ds : List Diagnostic) (d : Diagnostic) :
    reported (ds ++ [d])
      = if d.file ∈ reported ds then reported ds else reported ds ++ [d.file] := by
  rw [reported, List.map_append, List.eraseDups_append, List.map_singleton]
  by_cases h : d.file ∈ reported ds
  · have hmem : d.file ∈ ds.map Diagnostic.file := List.mem_eraseDups.mp h
    rw [if_pos h, reported]
    simp only [List.removeAll, List.filter_cons, List.elem_eq_mem, decide_eq_true hmem]
    simp
  · have hmem : d.file ∉ ds.map Diagnostic.file := mt List.mem_eraseDups.mpr h
    rw [if_neg h, reported]
    simp only [List.removeAll, List.filter_cons, List.elem_eq_mem, decide_eq_false hmem]
    simp [List.eraseDups_cons]

lemma under_concat (ds : List Diagnostic) (d : Diagnostic) (file : Text) :
    under (ds ++ [d]) file = if file = d.file then under ds file ++ [d] else under ds file := by
  rw [under, List.filter_append, List.filter_singleton]
  by_cases h : d.file = file
  · simp [h, under]
  · simp [h, Ne.symm h, under]

/-- **The groups of an output** are the reported files, each with its diagnostics. -/
lemma entries_groupByFile (ds : List Diagnostic) :
    (groupByFile ds).entries = (reported ds).map fun file => (file, under ds file) := by
  induction ds using List.reverseRecOn with
  | nil => rfl
  | append_singleton ds d ih =>
      set groups := groupByFile ds with hgroups
      have hkeys : groups.keys = reported ds := by
        rw [Table.keys, ih, List.map_map]
        exact List.map_id _
      have hget : (groups.get? d.file).getD [] = under ds d.file := by
        by_cases h : d.file ∈ reported ds
        · have hmem : (d.file, under ds d.file) ∈ groups.entries := by
            rw [ih]
            exact List.mem_map.mpr ⟨d.file, h, rfl⟩
          rw [Table.get?_of_mem hmem, Option.getD_some]
        · rw [(Table.get?_eq_none_iff groups d.file).mpr (hkeys ▸ h), under_eq_nil h,
            Option.getD_none]
      have hstep : groupByFile (ds ++ [d]) = groups.insert d.file (under ds d.file ++ [d]) := by
        rw [← hget, hgroups, groupByFile, List.foldl_append]
        rfl
      rw [hstep, reported_concat]
      by_cases h : d.file ∈ reported ds
      · rw [Table.entries_insert_of_mem (hkeys ▸ h), if_pos h, ih, Table.overwrite, List.map_map]
        refine List.map_congr_left fun file _ => ?_
        rw [Function.comp_apply, under_concat]
        by_cases hfile : file = d.file
        · simp [hfile]
        · simp [hfile]
      · rw [Table.entries_insert_of_not_mem (hkeys ▸ h), if_neg h, ih, List.map_append]
        congr 1
        · refine List.map_congr_left fun file hfile => ?_
          have hne : file ≠ d.file := fun heq => h (heq ▸ hfile)
          rw [under_concat, if_neg hne]
        · rw [List.map_singleton, under_concat, if_pos rfl]

lemma nodup_reported (ds : List Diagnostic) : (reported ds).Nodup := by
  have hnodup := (groupByFile ds).nodup
  rw [entries_groupByFile, List.map_map] at hnodup
  exact (List.map_id (reported ds)) ▸ hnodup

variable {ds ds' : List Diagnostic}

lemma reported_perm (h : ds.Perm ds') : (reported ds).Perm (reported ds') := by
  rw [List.perm_ext_iff_of_nodup (nodup_reported ds) (nodup_reported ds')]
  intro file
  simp only [mem_reported, h.mem_iff]

lemma under_perm (h : ds.Perm ds') (file : Text) : (under ds file).Perm (under ds' file) :=
  h.filter _

/-- No two different reported paths mean the same supplied file. -/
def OneSpelling (keys : List Text) (ds : List Diagnostic) : Prop :=
  ∀ d ∈ ds, ∀ d' ∈ ds, (FileKey.find? keys d.file).isSome →
    FileKey.find? keys d.file = FileKey.find? keys d'.file → d.file = d'.file

instance (keys : List Text) (ds : List Diagnostic) : Decidable (OneSpelling keys ds) :=
  inferInstanceAs (Decidable (∀ d ∈ ds, ∀ d' ∈ ds, (FileKey.find? keys d.file).isSome →
    FileKey.find? keys d.file = FileKey.find? keys d'.file → d.file = d'.file))

end Diagnostic

open Diagnostic (reported under OneSpelling)

/-! ## Fixes -/

namespace Position

lemma le_antisymm {p q : Position} (hpq : p ≤ q) (hqp : q ≤ p) : p = q := by
  rw [le_def] at hpq hqp
  obtain ⟨line, character⟩ := p
  obtain ⟨line', character'⟩ := q
  simp only [mk.injEq] at *
  omega

end Position

namespace Fix

/-- Different fixes of a list start at different positions. -/
def StartApart (fixes : List Fix) : Prop :=
  ∀ f ∈ fixes, ∀ g ∈ fixes, f.range.start = g.range.start → f = g

instance (fixes : List Fix) : Decidable (StartApart fixes) :=
  inferInstanceAs (Decidable (∀ f ∈ fixes, ∀ g ∈ fixes, f.range.start = g.range.start → f = g))

/-- Two such fixes that start no earlier than each other are one. -/
lemma StartApart.eq_of_startsNoEarlier {fixes : List Fix} (h : StartApart fixes) {f g : Fix}
    (hf : f ∈ fixes) (hg : g ∈ fixes) (hfg : startsNoEarlier f g) (hgf : startsNoEarlier g f) :
    f = g :=
  h f hf g hg (Position.le_antisymm (of_decide_eq_true hgf) (of_decide_eq_true hfg))

/-- There is only one way to sort fixes that start at different positions. -/
lemma sort_perm {fixes fixes' : List Fix} (h : fixes.Perm fixes') (hapart : StartApart fixes) :
    sort fixes = sort fixes' := by
  have hsorted : (sort fixes).Perm (sort fixes') :=
    ((perm_sort fixes).trans h).trans (perm_sort fixes').symm
  refine hsorted.eq_of_pairwise ?_ (pairwise_sort fixes) (pairwise_sort fixes')
  intro f g hf hg hfg hgf
  have hf : f ∈ fixes := mem_sort.mp hf
  have hg : g ∈ fixes := h.mem_iff.mpr (mem_sort.mp hg)
  exact hapart.eq_of_startsNoEarlier hf hg hfg hgf

end Fix

lemma applyFixes_perm (s : Snapshot) {fixes fixes' : List Fix} (h : fixes.Perm fixes')
    (hapart : Fix.StartApart fixes) : applyFixes s fixes = applyFixes s fixes' := by
  rw [applyFixes, applyFixes, Fix.sort_perm h hapart]

/-- The fixes that the rules of a phase find for the diagnostics of a text. -/
def phaseFixes (reg : Registry) (phase : Phase) (ds : List Diagnostic) (text : Text) : List Fix :=
  reg.synthesize (ds.filter fun d => (reg.codesOf phase).contains d.code) (.ofText text)

lemma runPhase_eq (reg : Registry) (phase : Phase) (ds : List Diagnostic) (text : Text) :
    runPhase reg phase ds text = applyFixes (.ofText text) (phaseFixes reg phase ds text) := rfl

lemma runPhase_perm {reg : Registry} {phase : Phase} {ds ds' : List Diagnostic} {text : Text}
    (h : ds.Perm ds') (hapart : Fix.StartApart (phaseFixes reg phase ds text)) :
    runPhase reg phase ds text = runPhase reg phase ds' text := by
  have hfixes : (phaseFixes reg phase ds text).Perm (phaseFixes reg phase ds' text) :=
    (h.filter _).filterMap _
  rw [runPhase_eq, runPhase_eq, applyFixes_perm _ hfixes hapart]

/-- Both phases on one text. -/
structure Treatment where
  one : Applied
  two : Applied

/-- Treats a text for diagnostics of it: phase one, and phase two on what it leaves. -/
def treat (reg : Registry) (own : List Diagnostic) (text : Text) : Treatment :=
  let one := runPhase reg .first own text
  ⟨one, runPhase reg .second (own.map (Diagnostic.pastFixes one.applied)) one.content⟩

/-- The codes of the applied fixes. -/
def Treatment.codes (t : Treatment) : List Text :=
  t.one.applied.map Fix.code ++ t.two.applied.map Fix.code

/-- In neither phase do two different fixes for the text start at the same position. -/
structure FixesApart (reg : Registry) (own : List Diagnostic) (text : Text) : Prop where
  first : Fix.StartApart (phaseFixes reg .first own text)
  second : let one := runPhase reg .first own text
    Fix.StartApart
      (phaseFixes reg .second (own.map (Diagnostic.pastFixes one.applied)) one.content)

instance (reg : Registry) (own : List Diagnostic) (text : Text) :
    Decidable (FixesApart reg own text) :=
  decidable_of_iff
    (Fix.StartApart (phaseFixes reg .first own text) ∧
      let one := runPhase reg .first own text
      Fix.StartApart
        (phaseFixes reg .second (own.map (Diagnostic.pastFixes one.applied)) one.content))
    ⟨fun h => ⟨h.1, h.2⟩, fun h => ⟨h.first, h.second⟩⟩

lemma treat_perm {reg : Registry} {own own' : List Diagnostic} {text : Text} (h : own.Perm own')
    (hapart : FixesApart reg own text) : treat reg own text = treat reg own' text := by
  have hone := runPhase_perm h hapart.first
  have htwo := runPhase_perm (h.map _) hapart.second
  rw [treat, treat, ← hone]
  exact congrArg _ htwo

/-! ## Passes -/

namespace Pass

variable (reg : Registry) (files : Table Text Text)

/-- The supplied file that a group is about, and its treatment for the diagnostics of the group. -/
def treatGroup (group : Text × List Diagnostic) : Option (Text × Treatment) :=
  (FileKey.find? files.keys group.1).map fun key =>
    (key, treat reg group.2 ((files.get? key).getD []))

/-- The new text of a file, if it differs from the supplied one. -/
def newText? (treated : Text × Treatment) : Option (Text × Text) :=
  if treated.2.two.content = (files.get? treated.1).getD [] then none
  else some (treated.1, treated.2.two.content)

variable {reg files}

lemma step_of_treatGroup_eq_none {pass : Pass} {group : Text × List Diagnostic}
    (h : treatGroup reg files group = none) :
    step reg files pass group
      = { pass with notices := pass.notices ++ [.unknownFile group.1] } := by
  rw [treatGroup, Option.map_eq_none_iff] at h
  rw [step, h]

lemma step_of_find? (pass : Pass) {group : Text × List Diagnostic} {key : Text}
    (h : FileKey.find? files.keys group.1 = some key) :
    let text := (pass.contents.get? key <|> files.get? key).getD []
    let t := treat reg group.2 text
    step reg files pass group =
      { contents := pass.contents.insert key t.two.content
        fixed := pass.fixed.tally t.codes
        changed :=
          if t.two.content = text then pass.changed else pass.changed.insert key t.two.content
        notices := pass.notices ++ t.one.notices ++ t.two.notices } := by
  intro text t
  have hfixed : pass.fixed.tally t.codes = t.two.countInto (t.one.countInto pass.fixed) :=
    Counts.tally_append _ _ _
  rw [hfixed, step, h]
  rfl

/-- A group about a file that no group before it was about. -/
lemma step_of_treatGroup_eq_some {pass : Pass} {group : Text × List Diagnostic} {key : Text}
    {t : Treatment} (h : treatGroup reg files group = some (key, t))
    (hnew : pass.contents.get? key = none) :
    (step reg files pass group).contents = pass.contents.insert key t.two.content ∧
      (step reg files pass group).fixed = pass.fixed.tally t.codes ∧
      (step reg files pass group).changed
        = pass.changed.insertAll (newText? files (key, t)).toList := by
  rw [treatGroup, Option.map_eq_some_iff] at h
  obtain ⟨key', hkey, heq⟩ := h
  obtain ⟨rfl, rfl⟩ := Prod.mk.inj heq
  rw [step_of_find? pass hkey, hnew]
  refine ⟨rfl, rfl, ?_⟩
  rw [newText?]
  simp only [Option.orElse_eq_orElse, Option.orElse_eq_or, Option.none_or]
  split <;> rfl

/-- **Groups about different files.**  Every one of them works on the supplied text. -/
lemma foldl_step : ∀ (groups : List (Text × List Diagnostic)) (pass : Pass),
    ((groups.filterMap (treatGroup reg files)).map Prod.fst).Nodup →
    (∀ t ∈ groups.filterMap (treatGroup reg files), pass.contents.get? t.1 = none) →
      (groups.foldl (step reg files) pass).fixed
          = pass.fixed.tally ((groups.filterMap (treatGroup reg files)).flatMap (·.2.codes)) ∧
        (groups.foldl (step reg files) pass).changed
          = pass.changed.insertAll
              ((groups.filterMap (treatGroup reg files)).filterMap (newText? files))
  | [], _, _, _ => ⟨rfl, rfl⟩
  | group :: groups, pass, hnodup, hnew => by
      rw [List.foldl_cons]
      cases htreat : treatGroup reg files group with
      | none =>
          rw [List.filterMap_cons_none htreat] at hnodup hnew ⊢
          have ih := foldl_step groups (step reg files pass group) hnodup
          rw [step_of_treatGroup_eq_none htreat] at ih ⊢
          exact ih hnew
      | some treated =>
          obtain ⟨key, t⟩ := treated
          rw [List.filterMap_cons_some htreat] at hnodup hnew ⊢
          rw [List.map_cons, List.nodup_cons] at hnodup
          obtain ⟨hcontents, hfixed, hchanged⟩ :=
            step_of_treatGroup_eq_some htreat (hnew (key, t) List.mem_cons_self)
          have hrest : ∀ t' ∈ groups.filterMap (treatGroup reg files),
              (step reg files pass group).contents.get? t'.1 = none := by
            intro t' ht'
            have hne : t'.1 ≠ key := by
              rintro rfl
              exact hnodup.1 (List.mem_map.mpr ⟨t', ht', rfl⟩)
            rw [hcontents, Table.get?_insert, if_neg hne]
            exact hnew t' (List.mem_cons_of_mem _ ht')
          obtain ⟨ihfixed, ihchanged⟩ := foldl_step groups _ hnodup.2 hrest
          rw [ihfixed, ihchanged, hfixed, hchanged, List.flatMap_cons, Counts.tally_append]
          refine ⟨rfl, ?_⟩
          cases hnewText : newText? files (key, t) with
          | none => rw [List.filterMap_cons_none hnewText]; rfl
          | some e => rw [List.filterMap_cons_some hnewText]; rfl

/-- The treatments of all supplied files that diagnostics were reported for. -/
def treatments (reg : Registry) (files : Table Text Text) (ds : List Diagnostic) :
    List (Text × Treatment) :=
  (reported ds).filterMap fun file => treatGroup reg files (file, under ds file)

variable {ds ds' : List Diagnostic}

lemma nodup_treatments (h : OneSpelling files.keys ds) :
    ((treatments reg files ds).map Prod.fst).Nodup := by
  have hkeys : (treatments reg files ds).map Prod.fst
      = (reported ds).filterMap (FileKey.find? files.keys) := by
    rw [treatments, List.map_filterMap]
    refine List.filterMap_congr fun file _ => ?_
    rw [treatGroup, Option.map_map]
    exact Option.map_id'
  rw [hkeys, List.Nodup, List.pairwise_filterMap]
  refine (Diagnostic.nodup_reported ds).pairwise_of_forall_ne fun file hfile file' hfile' hne => ?_
  rintro key hkey _ hkey' rfl
  obtain ⟨d, hd, rfl⟩ := Diagnostic.mem_reported.mp hfile
  obtain ⟨d', hd', rfl⟩ := Diagnostic.mem_reported.mp hfile'
  exact hne (h d hd d' hd' (hkey ▸ rfl) (hkey.trans hkey'.symm))

lemma nodup_newTexts (h : OneSpelling files.keys ds) :
    (((treatments reg files ds).filterMap (newText? files)).map Prod.fst).Nodup := by
  have hkey : ∀ t e, newText? files t = some e → e.1 = t.1 := by
    intro t e he
    rw [newText?] at he
    split at he
    · cases he
    · cases he
      rfl
  rw [List.Nodup, List.pairwise_map, List.pairwise_filterMap]
  refine (List.pairwise_map.mp (nodup_treatments h)).imp fun hne e he e' he' heq => ?_
  exact hne ((hkey _ e he).symm.trans (heq.trans (hkey _ e' he')))

/-- **A pass without an order.**  If no two reported paths mean the same file, the pass is the
treatment of each file on its own. -/
lemma run_eq_treatments (reg : Registry) (h : OneSpelling files.keys ds) :
    (run reg files ds).fixed = Counts.tally .empty ((treatments reg files ds).flatMap (·.2.codes)) ∧
      (run reg files ds).changed
        = .ofList ((treatments reg files ds).filterMap (newText? files)) := by
  have htreatments : (Diagnostic.groupByFile ds).entries.filterMap (treatGroup reg files)
      = treatments reg files ds := by
    rw [Diagnostic.entries_groupByFile, List.filterMap_map]
    rfl
  rw [← htreatments]
  refine foldl_step (Diagnostic.groupByFile ds).entries {} ?_ fun _ _ => rfl
  rw [htreatments]
  exact nodup_treatments h

lemma treatments_perm (hperm : ds.Perm ds')
    (hapart : ∀ d ∈ ds, ∀ key text, FileKey.find? files.keys d.file = some key →
      files.get? key = some text → FixesApart reg (under ds d.file) text) :
    (treatments reg files ds).Perm (treatments reg files ds') := by
  have hsame : treatments reg files ds
      = (reported ds).filterMap fun file => treatGroup reg files (file, under ds' file) := by
    refine List.filterMap_congr fun file hfile => ?_
    obtain ⟨d, hd, rfl⟩ := Diagnostic.mem_reported.mp hfile
    rw [treatGroup, treatGroup]
    cases hkey : FileKey.find? files.keys d.file with
    | none => rfl
    | some key =>
        obtain ⟨text, htext⟩ := Option.isSome_iff_exists.mp
          ((Table.isSome_get?_iff files key).mpr (FileKey.mem_of_find? hkey))
        have htreat := treat_perm (Diagnostic.under_perm hperm d.file)
          (hapart d hd key text hkey htext)
        simp only [Option.map_some, htext, Option.getD_some, htreat]
  rw [hsame]
  exact (Diagnostic.reported_perm hperm).filterMap _

end Pass

/-- The same new texts and the same counts, in whatever order they are listed. -/
structure FixResult.Same (r r' : FixResult) : Prop where
  files : ∀ file, r.files.get? file = r'.files.get? file
  counts : ∀ code, r.counts.get? code = r'.counts.get? code

lemma Pass.result?_same {pass pass' : Pass}
    (hchanged : ∀ file, pass.changed.get? file = pass'.changed.get? file)
    (hfixed : ∀ code, pass.fixed.get? code = pass'.fixed.get? code) :
    Option.Rel FixResult.Same pass.result? pass'.result? := by
  have hempty : pass.changed.isEmpty = pass'.changed.isEmpty := by
    rw [Bool.eq_iff_iff, Table.isEmpty_iff, Table.isEmpty_iff]
    simp only [hchanged]
  rw [result?, result?, hempty]
  split
  · exact .none
  · exact .some ⟨hchanged, hfixed⟩

/-- **The order of the diagnostics does not matter.**  Two outputs report the same diagnostics, each
in an order of its own.  If no two reported paths mean the same file, and different fixes of one
phase for one file start at different positions, a pass comes to the same with both. -/
theorem Session.fix_perm (session : Session) (files : Table Text Text)
    (output output' : Option Text)
    (hperm : (Diagnostic.parse output).Perm (Diagnostic.parse output'))
    (hspelling : OneSpelling files.keys (Diagnostic.parse output))
    (hapart : ∀ d ∈ Diagnostic.parse output, ∀ key text,
      FileKey.find? files.keys d.file = some key → files.get? key = some text →
        FixesApart session.registry (under (Diagnostic.parse output) d.file) text) :
    Option.Rel FixResult.Same (session.fix files output).2.1 (session.fix files output').2.1 := by
  have hspelling' : OneSpelling files.keys (Diagnostic.parse output') := by
    intro d hd d' hd'
    exact hspelling d (hperm.mem_iff.mpr hd) d' (hperm.mem_iff.mpr hd')
  have htreatments := Pass.treatments_perm hperm hapart
  obtain ⟨hfixed, hchanged⟩ := Pass.run_eq_treatments session.registry hspelling
  obtain ⟨hfixed', hchanged'⟩ := Pass.run_eq_treatments session.registry hspelling'
  refine Pass.result?_same (fun file => ?_) fun code => ?_
  · rw [hchanged, hchanged']
    exact Table.get?_ofList_perm (htreatments.filterMap _) (Pass.nodup_newTexts hspelling) file
  · rw [hfixed, hfixed']
    exact Counts.tally_perm (htreatments.flatMap_right _) _ code

/-- Two files, one of which needs both phases. -/
def interleavedFiles : Table Text Text :=
  .ofList [("A.mo", "M.f<T>(x, y)"), ("B.mo", "h<U>(k<V>(z))")]

/-- The lines of a compiler about `interleavedFiles`. -/
def interleavedLines : List Text := [
  "A.mo:1.1-1.13: warning [M0236], dot",
  "B.mo:1.2-1.5: warning [M0223], type",
  "A.mo:1.4-1.7: warning [M0223], type",
  "B.mo:1.7-1.10: warning [M0223], type"]

theorem Session.fix_perm_interleaved :
    let output := Text.joinWith ['\n'] interleavedLines
    let output' := Text.joinWith ['\n'] interleavedLines.reverse
    (({} : Session).fix interleavedFiles output).2.1.map (·.files)
        = some (.ofList [("A.mo", "x.f(y)"), ("B.mo", "h(k(z))")]) ∧
      Option.Rel FixResult.Same (({} : Session).fix interleavedFiles output).2.1
        (({} : Session).fix interleavedFiles output').2.1 := by
  intro output output'
  have hfacts : (({} : Session).fix interleavedFiles output).2.1.map (·.files)
        = some (.ofList [("A.mo", "x.f(y)"), ("B.mo", "h(k(z))")]) ∧
      (Diagnostic.parse output).Perm (Diagnostic.parse output') ∧
      OneSpelling interleavedFiles.keys (Diagnostic.parse output) ∧
      ∀ d ∈ Diagnostic.parse output, ∀ e ∈ interleavedFiles.entries,
        FileKey.find? interleavedFiles.keys d.file = some e.1 →
          FixesApart .standard (under (Diagnostic.parse output) d.file) e.2 := by decide +kernel
  obtain ⟨hfiles, hperm, hspelling, hapart⟩ := hfacts
  refine ⟨hfiles, fix_perm {} interleavedFiles output output' hperm hspelling ?_⟩
  intro d hd key text hkey htext
  exact hapart d hd (key, text) (Table.mem_of_get? htext) hkey

end Amend
