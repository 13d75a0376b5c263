import Amend.Proofs.Arguments
import Amend.Proofs.OnlyDeletes

/-!
# Calls below removed instantiations

A compiler reports a redundant instantiation and, further down, a call that can be written in dot
notation.  The first phase deletes the instantiation, and the second phase has to find the call in a
text that is no longer the one that was reported on.

**Lines further down.**  `offset_below`: deletions that stay on their lines do not change which line
a position is on, so a position below all of them resolves to what is left before it.  It need not
be a position that the text admits.

**Deletions that stand apart** are all applied (`applied_eq_sort`): a deletion that is skipped would
reach into one that comes after it both in the order of positions and in the order of indices.

**Deletions and a call.**  `treat_call` turns a call around wherever its ends have been moved to.
`treat_call_across` is the case of a call whose ends are positions of the text, and
`treat_call_below` that of a call below the deletions.  In the latter the new text is never the old
one: in both of them the same position stands in front of the call, and the call has changed.

A deletion over several lines is another matter.  Positions are not moved past it, and the second
phase then looks at a line further down than the one that was reported (`fix_call_below_two_lines`).
-/

namespace Amend

/-! ## Lines further down -/

/-- A text with more than `n` line feeds goes on behind the next one. -/
lemma Text.exists_append_newline (t : Text) : ∀ n < t.count '\n',
    ∃ a b : Text, t = a ++ '\n' :: b ∧ a.count '\n' = n := by
  induction t using Text.line_induction with
  | last l hl =>
      intro n hn
      rw [List.count_eq_zero_of_not_mem hl] at hn
      omega
  | more l rest hl ih =>
      intro n hn
      rw [List.count_append, List.count_cons_self, List.count_eq_zero_of_not_mem hl] at hn
      cases n with
      | zero => exact ⟨l, rest, rfl, List.count_eq_zero_of_not_mem hl⟩
      | succ n =>
          obtain ⟨a, b, rfl, ha⟩ := ih n (by omega)
          refine ⟨l ++ '\n' :: a, b, by simp, ?_⟩
          rw [List.count_append, List.count_cons_self, List.count_eq_zero_of_not_mem hl, ha]
          omega

namespace Snapshot

/-- Behind a text and a line feed, a position has the index that it has in what follows. -/
lemma offset_append_newline (a b : Text) (character : Int) :
    (ofText (a ++ '\n' :: b)).offset ⟨a.count '\n' + 1, character⟩
      = a.length + 1 + (ofText b).offset ⟨0, character⟩ := by
  induction a using Text.line_induction with
  | last l hl =>
      rw [List.count_eq_zero_of_not_mem hl]
      exact offset_next_line hl b 0 character
  | more l rest hl ih =>
      have hcount : (l ++ '\n' :: rest).count '\n' = rest.count '\n' + 1 := by
        rw [List.count_append, List.count_cons_self, List.count_eq_zero_of_not_mem hl, Nat.zero_add]
      have hnext := offset_next_line hl (rest ++ '\n' :: b) (rest.count '\n' + 1) character
      rw [Int.natCast_add, Int.natCast_one, ih] at hnext
      rw [hcount, List.append_assoc, List.cons_append, Int.natCast_add, Int.natCast_one, hnext,
        List.length_append, List.length_cons]
      omega

/-- Before the end of the text, the index of a position is not above its line. -/
lemma line_le_of_offset_lt (t : Text) : ∀ p : Position, (ofText t).offset p < t.length →
    p.line ≤ (t.take ((ofText t).offset p)).count '\n' := by
  induction t using Text.line_induction with
  | last l hl =>
      intro p hlt
      by_cases hline : 0 < p.line
      · have hend := offset_of_count_lt l p (by rw [List.count_eq_zero_of_not_mem hl]; omega)
        omega
      · omega
  | more l rest hl ih =>
      rintro ⟨line, character⟩ hlt
      by_cases hline : 0 < line
      · obtain ⟨n, rfl⟩ : ∃ n : Nat, line = n + 1 := ⟨(line - 1).toNat, by omega⟩
        rw [offset_next_line hl, List.length_append, List.length_cons] at hlt
        have hrest := ih ⟨n, character⟩ (by omega)
        rw [offset_next_line hl, Text.take_next_line, List.count_append, List.count_cons_self]
        simp only at hrest ⊢
        omega
      · simp only
        omega

end Snapshot

/-- A text of which the beginning is replaced by another one with the same position at its end, and
a part behind it by another text, is not the same text. -/
lemma Text.append_ne_of_endPosition_eq {t u new : Text} {i j : Nat} (hij : i ≤ j)
    (hi : i ≤ t.length) (hpos : endPosition u = endPosition (t.take i)) (hnew : new ≠ t.slice i j) :
    u ++ new ++ t.drop j ≠ t := by
  intro heq
  have hlength : u.length = i := by
    have hindex := Snapshot.offset_endPosition_append u (new ++ t.drop j)
    rw [← List.append_assoc, heq, hpos, Snapshot.offset_endPosition t i hi] at hindex
    exact hindex.symm
  have hold : t.take i ++ t.slice i j ++ t.drop j = t := by
    rw [take_append_slice t hij, List.take_append_drop]
  have hparts := List.append_cancel_right (heq.trans hold.symm)
  have hsame := (List.append_inj hparts (by rw [hlength, List.length_take, Nat.min_eq_left hi])).2
  exact hnew hsame

/-! ## Positions below deletions -/

section

variable {s : Snapshot} {fixes : List Fix} (h : ∀ f ∈ fixes, f.DeletesIn s)

include h

/-- Deletions keep the line feeds before an index. -/
lemma count_newline_without {o : Nat} (ho : o ≤ s.text.length) :
    (Text.without (deletedBy s (applyFixes s fixes).applied) 0 (s.text.take o)).count '\n'
      = (s.text.take o).count '\n' := by
  have hreached := reached_applyFixes s fixes fun g hg => (h g hg).startIn_le_stopIn
  have hpos := endPosition_without s (applyFixes s fixes).applied
    (fun f hf => deletesIn_of_mem_applied h hf) hreached.apart o ho
  exact Int.natCast_inj.mp (congrArg Position.line hpos)

variable {p : Position} (hbelow : ∀ f ∈ fixes, f.range.stop.line < p.line)

include hbelow

/-- A deletion on a line above ends before the position. -/
lemma stopIn_le_offset {f : Fix} (hf : f ∈ fixes) : f.stopIn s ≤ s.offset p := by
  refine Nat.le_of_not_lt fun hlt => ?_
  have hlen : f.stopIn s ≤ s.text.length := s.offset_le_length _
  have hline := Snapshot.line_le_of_offset_lt s.text p (by rw [← s.eq_ofText]; omega)
  rw [← s.eq_ofText] at hline
  have hstop := (h f hf).stop_eq
  have hlt' := hbelow f hf
  have hle := Text.endPosition_le s.text (Nat.le_of_lt hlt) hlen
  rw [← hstop, Position.le_def, Text.line_endPosition] at hle
  omega

/-- It is not moved. -/
lemma pastDeletions_below : p.pastDeletions (applyFixes s fixes).applied = p := by
  refine Position.pastDeletions_eq_self fun f hf => ?_
  have hmem := mem_of_mem_applied (fun g hg => (h g hg).startIn_le_stopIn) hf
  have hlt := hbelow f hmem
  have hone := (h f hmem).oneLine
  omega

/-- A line feed in front of the line of the position stands behind all deletions. -/
lemma stopIn_le_length {a b : Text} (htext : s.text = a ++ '\n' :: b)
    (hline : p.line = a.count '\n' + 1) {f : Fix} (hf : f ∈ fixes) : f.stopIn s ≤ a.length := by
  refine Nat.le_of_not_lt fun hlt => ?_
  have hstop := congrArg Position.line (h f hf).stop_eq
  obtain ⟨j, hj⟩ : ∃ j, f.stopIn s = a.length + 1 + j := ⟨f.stopIn s - a.length - 1, by omega⟩
  rw [hj, htext, Text.take_next_line, Text.line_endPosition, List.count_append,
    List.count_cons_self] at hstop
  have hlt' := hbelow f hf
  omega

/-- **A position below all deletions** resolves to what is left before it, without being moved. -/
lemma offset_below :
    (Snapshot.ofText (applyFixes s fixes).content).offset p
      = (Text.without (deletedBy s (applyFixes s fixes).applied) 0
          (s.text.take (s.offset p))).length := by
  set gone := deletedBy s (applyFixes s fixes).applied with hgone
  by_cases hpos : 0 < p.line
  · by_cases hend : (s.text.count '\n' : Int) < p.line
    · -- The line does not exist, before and after.
      have hcount := count_newline_without h (Nat.le_refl s.text.length)
      rw [List.take_length, ← content_eq_without h] at hcount
      have hold := Snapshot.offset_of_count_lt s.text p hend
      rw [← s.eq_ofText] at hold
      rw [Snapshot.offset_of_count_lt _ p (by omega), hold, List.take_length,
        ← content_eq_without h]
    · obtain ⟨n, hn⟩ : ∃ n : Nat, p.line = n + 1 := ⟨(p.line - 1).toNat, by omega⟩
      obtain ⟨a, b, htext, ha⟩ := s.text.exists_append_newline n (by omega)
      have hp : p = ⟨a.count '\n' + 1, p.character⟩ := by rw [ha, ← hn]
      have hkept : ∀ j, a.length ≤ j → gone j = false := fun j hj =>
        deletedBy_eq_false fun f hf => Or.inr <| Nat.le_trans
          (stopIn_le_length h hbelow htext (by rw [hn, ha])
            (mem_of_mem_applied (fun g hg => (h g hg).startIn_le_stopIn) hf)) hj
      have hbehind : ∀ u, Text.without gone 0 (a ++ u) = Text.without gone 0 a ++ u := fun u => by
        rw [Text.without_append, Nat.zero_add, Text.without_eq_self _ u fun j hj _ => hkept j hj]
      have hcontent : (applyFixes s fixes).content = Text.without gone 0 a ++ '\n' :: b := by
        rw [content_eq_without h, ← hgone, htext, hbehind]
      have hcount : (Text.without gone 0 a).count '\n' = a.count '\n' := by
        have hcount := count_newline_without h (o := a.length) (by rw [htext]; simp)
        rwa [htext, List.take_left, ← hgone] at hcount
      have hnew := Snapshot.offset_append_newline (Text.without gone 0 a) b p.character
      have hold := Snapshot.offset_append_newline a b p.character
      rw [hcount, ← hcontent, ← hp] at hnew
      rw [← htext, ← s.eq_ofText, ← hp] at hold
      have hlen : (Snapshot.ofText b).offset ⟨0, p.character⟩ ≤ b.length :=
        Snapshot.offset_le_length _ _
      rw [hnew, hold, htext, Text.take_next_line, hbehind, List.length_append, List.length_cons,
        List.length_take, Nat.min_eq_left hlen]
      omega
  · -- Only without any deletions can the position lie on the first line.
    obtain rfl : fixes = [] := by
      refine List.eq_nil_iff_forall_not_mem.mpr fun f hf => ?_
      have hlt := hbelow f hf
      have hline := (h f hf).admits_stop.1
      omega
    have hself : Text.without gone 0 (s.text.take (s.offset p)) = s.text.take (s.offset p) :=
      Text.without_eq_self _ _ fun _ _ _ => rfl
    have hcontent : (applyFixes s []).content = s.text := rfl
    rw [hself, hcontent, ← s.eq_ofText, List.length_take,
      Nat.min_eq_left (s.offset_le_length p)]

/-- On its line, a text that reaches below all deletions ends where it ended. -/
lemma endPosition_without_below {o : Nat} (ho : o ≤ s.text.length)
    (hline : p.line ≤ (s.text.take o).count '\n') :
    Text.endPosition (Text.without (deletedBy s (applyFixes s fixes).applied) 0 (s.text.take o))
      = Text.endPosition (s.text.take o) := by
  have hreached := reached_applyFixes s fixes fun g hg => (h g hg).startIn_le_stopIn
  rw [endPosition_without s (applyFixes s fixes).applied
    (fun f hf => deletesIn_of_mem_applied h hf) hreached.apart o ho]
  refine Position.pastDeletions_eq_self fun f hf => ?_
  have hmem := mem_of_mem_applied (fun g hg => (h g hg).startIn_le_stopIn) hf
  have hlt := hbelow f hmem
  have hone := (h f hmem).oneLine
  rw [Text.line_endPosition]
  omega

end

/-! ## Deletions that stand apart -/

namespace Range

/-- **The range of an instantiation.**  It lies on one line of the text, is not empty, and its ends
are between characters of that line. -/
structure OnLine (s : Snapshot) (r : Range) : Prop where
  oneLine : r.start.line = r.stop.line
  nonempty : r.start.character < r.stop.character
  admits_start : s.Admits r.start
  admits_stop : s.Admits r.stop

instance (s : Snapshot) (r : Range) : Decidable (r.OnLine s) :=
  decidable_of_iff (r.start.line = r.stop.line ∧ r.start.character < r.stop.character ∧
      s.Admits r.start ∧ s.Admits r.stop)
    ⟨fun ⟨hline, hchar, hstart, hstop⟩ => ⟨hline, hchar, hstart, hstop⟩,
      fun h => ⟨h.oneLine, h.nonempty, h.admits_start, h.admits_stop⟩⟩

/-- The ranges have no character of the text in common. -/
def Apart (s : Snapshot) (r q : Range) : Prop :=
  s.offset r.stop ≤ s.offset q.start ∨ s.offset q.stop ≤ s.offset r.start

instance (s : Snapshot) (r q : Range) : Decidable (r.Apart s q) :=
  inferInstanceAs (Decidable (s.offset r.stop ≤ s.offset q.start ∨
    s.offset q.stop ≤ s.offset r.start))

end Range

namespace Diagnostic

variable {s : Snapshot} {d e : Diagnostic}

lemma deletesIn (h : d.range.OnLine s) : d.deletion.DeletesIn s where
  newText_eq := rfl
  oneLine := h.oneLine
  ordered := Int.le_of_lt h.nonempty
  admits_start := h.admits_start
  admits_stop := h.admits_stop

lemma startIn_lt_stopIn (h : d.range.OnLine s) : d.deletion.startIn s < d.deletion.stopIn s := by
  refine Nat.lt_of_le_of_ne (deletesIn h).startIn_le_stopIn fun heq => ?_
  have hstart := (deletesIn h).start_eq
  rw [heq, ← (deletesIn h).stop_eq] at hstart
  have hchar : d.range.start.character = d.range.stop.character :=
    congrArg Position.character hstart
  have hlt := h.nonempty
  omega

/-- In the order of positions, the indices are in order as well. -/
lemma startIn_le_startIn (hd : d.range.OnLine s) (he : e.range.OnLine s)
    (hle : d.range.start ≤ e.range.start) : d.deletion.startIn s ≤ e.deletion.startIn s := by
  refine Nat.le_of_not_lt fun hlt => ?_
  have hlt' := Text.endPosition_lt s.text hlt (s.offset_le_length _)
  rw [← (deletesIn hd).start_eq, ← (deletesIn he).start_eq] at hlt'
  rw [Position.le_def] at hle
  change e.range.start.line < d.range.start.line ∨ e.range.start.line = d.range.start.line ∧
    e.range.start.character < d.range.start.character at hlt'
  omega

end Diagnostic

lemma marked_eq_self {α : Type} {marks : List Bool} {l : List α} (hlen : marks.length = l.length)
    (h : ∀ b ∈ marks, b = true) : marked marks l = l := by
  have hall : (l.zip marks).filter (fun e => e.2) = l.zip marks :=
    List.filter_eq_self.mpr fun e he => h e.2 (List.of_mem_zip he).2
  rw [marked, hall]
  exact List.map_fst_zip (Nat.le_of_eq hlen.symm)

/-- **Deletions that stand apart are all applied.** -/
lemma applied_eq_sort {s : Snapshot} {ds : List Diagnostic} (hline : ∀ d ∈ ds, d.range.OnLine s)
    (hapart : ds.Pairwise fun d e => d.range.Apart s e.range) :
    (applyFixes s (ds.map Diagnostic.deletion)).applied
      = Fix.sort (ds.map Diagnostic.deletion) := by
  set fixes := ds.map Diagnostic.deletion with hfixes
  have hle : ∀ f ∈ fixes, f.startIn s ≤ f.stopIn s := by
    intro f hf
    obtain ⟨d, hd, rfl⟩ := List.mem_map.mp hf
    exact Nat.le_of_lt (Diagnostic.startIn_lt_stopIn (hline d hd))
  obtain ⟨marks, hmarks⟩ := (reached_applyFixes s fixes hle).marks
  have hsorted : (Fix.sort fixes).Pairwise fun f g =>
      g.range.start ≤ f.range.start ∧ f.range.Apart s g.range := by
    have hpositions : (Fix.sort fixes).Pairwise fun f g => g.range.start ≤ f.range.start :=
      (Fix.pairwise_sort fixes).imp fun h => of_decide_eq_true h
    have hranges : fixes.Pairwise fun f g => f.range.Apart s g.range :=
      List.pairwise_map.mpr hapart
    exact hpositions.and (hranges.perm (Fix.perm_sort fixes).symm fun h => h.symm)
  refine hmarks.applied_eq.trans (marked_eq_self hmarks.length_eq fun b hb => ?_)
  obtain ⟨i, hi⟩ := List.mem_iff_getElem?.mp hb
  cases b with
  | true => rfl
  | false =>
      -- A skipped deletion reaches into one before it in the order of work, against both orders.
      have hilt : i < (Fix.sort fixes).length :=
        hmarks.length_eq ▸ (List.getElem?_eq_some_iff.mp hi).1
      obtain ⟨j, g, hji, hg, -, hlt⟩ := hmarks.overlap i _ (List.getElem?_eq_getElem hilt) hi
      obtain ⟨hjlt, rfl⟩ := List.getElem?_eq_some_iff.mp hg
      have hmem : ∀ f ∈ Fix.sort fixes, ∃ d ∈ ds, d.deletion = f := fun f hf =>
        List.mem_map.mp (Fix.mem_sort.mp hf)
      obtain ⟨d, hd, hf⟩ := hmem _ (List.getElem_mem hilt)
      obtain ⟨e, he, hg⟩ := hmem _ (List.getElem_mem hjlt)
      obtain ⟨hstart, hranges⟩ := List.pairwise_iff_getElem.mp hsorted j i hjlt hilt hji
      rw [← hf, ← hg] at hstart hranges hlt
      have hlower := Diagnostic.startIn_le_startIn (hline d hd) (hline e he) hstart
      have hnonempty := Diagnostic.startIn_lt_stopIn (hline e he)
      rcases hranges with hbefore | hbefore <;>
        simp only [Fix.startIn, Fix.stopIn] at hlower hnonempty hlt <;> omega

/-- The characters that a list of deletions covers do not depend on its order. -/
lemma deletedBy_perm (s : Snapshot) {fs gs : List Fix} (h : fs.Perm gs) :
    deletedBy s fs = deletedBy s gs := by
  funext i
  rw [deletedBy, deletedBy, Bool.eq_iff_iff, List.any_eq_true, List.any_eq_true]
  simp only [h.mem_iff]

/-! ## Passes over one file -/

/-- **A pass over a single file.**  All diagnostics are reported under one path, and the treatment
of the file for them is not without effect. -/
lemma Session.fix_of_one_file (session : Session) (files : Table Text Text) (output : Option Text)
    {file key text : Text} (hne : Diagnostic.parse output ≠ [])
    (hfile : ∀ d ∈ Diagnostic.parse output, d.file = file)
    (hkey : FileKey.find? files.keys file = some key) (htext : files.get? key = some text)
    (hchanged : (treat session.registry (Diagnostic.parse output) text).two.content ≠ text) :
    (session.fix files output).2.1
      = some ⟨.ofList [(key, (treat session.registry (Diagnostic.parse output) text).two.content)],
          Counts.tally .empty (treat session.registry (Diagnostic.parse output) text).codes⟩ := by
  set ds := Diagnostic.parse output with hds
  have hspelling : Diagnostic.OneSpelling files.keys ds := fun d hd d' hd' _ _ =>
    (hfile d hd).trans (hfile d' hd').symm
  have hreported : Diagnostic.reported ds = [file] := by
    refine List.perm_singleton.mp ((List.perm_ext_iff_of_nodup (Diagnostic.nodup_reported ds)
      (List.nodup_singleton file)).mpr fun f => ?_)
    rw [Diagnostic.mem_reported, List.mem_singleton]
    constructor
    · rintro ⟨d, hd, rfl⟩
      exact hfile d hd
    · rintro rfl
      obtain ⟨d, hd⟩ := List.exists_mem_of_ne_nil ds hne
      exact ⟨d, hd, hfile d hd⟩
  have hunder : Diagnostic.under ds file = ds :=
    List.filter_eq_self.mpr fun d hd => decide_eq_true (hfile d hd)
  have htreatments : Pass.treatments session.registry files ds
      = [(key, treat session.registry ds text)] := by
    simp [Pass.treatments, hreported, hunder, Pass.treatGroup, hkey, htext]
  obtain ⟨hfixed, hnew⟩ := Pass.run_eq_treatments session.registry hspelling
  have htexts : [(key, treat session.registry ds text)].filterMap (Pass.newText? files)
      = [(key, (treat session.registry ds text).two.content)] := by
    simp [Pass.newText?, htext, hchanged]
  have hcodes : [(key, treat session.registry ds text)].flatMap (·.2.codes)
      = (treat session.registry ds text).codes := by simp
  rw [htreatments, htexts] at hnew
  rw [htreatments, hcodes] at hfixed
  rw [fix, ← hds, Pass.result?, hnew, hfixed]
  rfl

/-! ## Deletions and a call in one text -/

/-- A text that the second phase looks at for a single call. -/
lemma runPhase_call {ds : List Diagnostic} {dot : Diagnostic} (text : Text) {call : Call}
    {receiver : Text} {rest : List Text}
    (hdot : ds.filter (fun d => d.code = ("M0236" : Text) ∨ d.code = ("M0237" : Text)) = [dot])
    (hcode : dot.code = "M0236")
    (hcall : Call.parse? ((Snapshot.ofText text).textAt dot.range) = some call)
    (hargs : call.args = receiver :: rest) :
    let new := Rule.dotForm receiver (Rule.method dot.message call) rest
    runPhase .standard .second ds text
      = { content := text.take ((Snapshot.ofText text).offset dot.range.start) ++ new
            ++ text.drop ((Snapshot.ofText text).offset dot.range.stop)
          applied := [{ range := dot.range, newText := new, code := "M0236" }] } := by
  intro new
  have hrule : Registry.standard.rule? "M0236" = some Rule.dotNotation := rfl
  have hproc : Rule.dotNotation.edit? dot (.ofText text)
      = Rule.dotNotationEdit? dot (.ofText text) := rfl
  have hedit : Rule.dotNotationEdit? dot (.ofText text) = some ⟨dot.range, new⟩ := by
    simp only [Rule.dotNotationEdit?, hcall, hargs, new, Rule.method]
  have hfixes : phaseFixes .standard .second ds text
      = [{ range := dot.range, newText := new, code := "M0236" }] := by
    rw [phaseFixes_second, hdot, Registry.synthesize, List.filterMap_cons, hcode, hrule,
      Option.bind_some, hproc, hedit]
    rfl
  rw [runPhase_eq, hfixes]
  rfl

/-- Both ends of a diagnostic move past deletions of single lines. -/
lemma range_pastFixes {s : Snapshot} {fixes : List Fix} (h : ∀ f ∈ fixes, f.DeletesIn s)
    (d : Diagnostic) : (d.pastFixes fixes).range
      = ⟨d.range.start.pastDeletions fixes, d.range.stop.pastDeletions fixes⟩ := by
  have hfilter : fixes.filter Fix.isLineDeletion = fixes :=
    List.filter_eq_self.mpr fun f hf => (h f hf).isLineDeletion
  rw [Diagnostic.pastFixes, hfilter]
  rfl

section

variable {text : Text} {own insts : List Diagnostic}
  (hinsts : (own.filter (·.code = ("M0223" : Text))).Perm insts)
  (hline : ∀ d ∈ insts, d.range.OnLine (.ofText text))
  (hapart : insts.Pairwise fun d e => d.range.Apart (.ofText text) e.range)

include hinsts hline

/-- The first phase deletes the instantiations. -/
lemma exists_treat_one : ∃ fixes : List Fix, fixes.Perm (insts.map Diagnostic.deletion) ∧
    (∀ f ∈ fixes, f.DeletesIn (.ofText text)) ∧
    (treat .standard own text).one = applyFixes (.ofText text) fixes := by
  have hperm := hinsts.map Diagnostic.deletion
  refine ⟨_, hperm, fun f hf => ?_, by rw [treat, runPhase_eq, phaseFixes_first]⟩
  obtain ⟨d, hd, rfl⟩ := List.mem_map.mp (hperm.mem_iff.mp hf)
  exact Diagnostic.deletesIn (hline d hd)

include hapart

/-- It deletes all of them. -/
lemma treat_one_applied :
    (treat .standard own text).one.applied.Perm (insts.map Diagnostic.deletion) := by
  have hfound : ∀ d ∈ own.filter (·.code = ("M0223" : Text)), d.range.OnLine (.ofText text) :=
    fun d hd => hline d (hinsts.mem_iff.mp hd)
  have hfoundApart := hapart.perm hinsts.symm fun h => h.symm
  rw [treat, runPhase_eq, phaseFixes_first, applied_eq_sort hfound hfoundApart]
  exact (Fix.perm_sort _).trans (hinsts.map _)

lemma deletedBy_treat_one : deletedBy (.ofText text) (treat .standard own text).one.applied
    = deletedBy (.ofText text) (insts.map Diagnostic.deletion) :=
  deletedBy_perm _ (treat_one_applied hinsts hline hapart)

lemma codes_treat_one : (treat .standard own text).one.applied.map Fix.code
    = List.replicate insts.length ("M0223" : Text) := by
  have happlied := treat_one_applied hinsts hline hapart
  refine List.eq_replicate_iff.mpr ⟨?_, fun code hmem => ?_⟩
  · rw [List.length_map, happlied.length_eq, List.length_map]
  · obtain ⟨f, hf, rfl⟩ := List.mem_map.mp hmem
    obtain ⟨d, hd, rfl⟩ := List.mem_map.mp (happlied.mem_iff.mp hf)
    exact of_decide_eq_true (List.mem_filter.mp (hinsts.mem_iff.mpr hd)).2

variable {dot : Diagnostic}
  (hdot : own.filter (fun d => d.code = ("M0236" : Text) ∨ d.code = ("M0237" : Text)) = [dot])
  (hcode : dot.code = "M0236")
  {call : Call} {receiver : Text} {rest : List Text}

include hdot hcode

/-- **Deletions and a call.**  If the ends of the call are at the given places in the text that the
deletions have left, and a call is read between them, it is turned around there. -/
lemma treat_call {start stop : Nat} (hstartLe : start ≤ text.length)
    (hstopLe : stop ≤ text.length) :
    let one := (treat .standard own text).one
    let gone := deletedBy (.ofText text) (insts.map Diagnostic.deletion)
    let moved := (dot.pastFixes one.applied).range
    (Snapshot.ofText one.content).offset moved.start
        = (Text.without gone 0 (text.take start)).length →
      (Snapshot.ofText one.content).offset moved.stop
        = (Text.without gone 0 (text.take stop)).length →
      Call.parse? (Text.without gone start (text.slice start stop)) = some call →
      call.args = receiver :: rest →
        (treat .standard own text).two.content
            = Text.without gone 0 (text.take start)
              ++ Rule.dotForm receiver (Rule.method dot.message call) rest
              ++ Text.without gone stop (text.drop stop) ∧
          (treat .standard own text).codes
            = List.replicate insts.length ("M0223" : Text) ++ [("M0236" : Text)] := by
  intro one gone moved hstart hstop hcall hargs
  have hgone : deletedBy (.ofText text) one.applied = gone :=
    deletedBy_treat_one hinsts hline hapart
  obtain ⟨fixes, -, hdel, hone⟩ := exists_treat_one hinsts hline
  have hdots : (own.map (Diagnostic.pastFixes one.applied)).filter
      (fun d => d.code = ("M0236" : Text) ∨ d.code = ("M0237" : Text))
        = [dot.pastFixes one.applied] := by
    have hcomp :
        (fun d : Diagnostic => decide (d.code = ("M0236" : Text) ∨ d.code = ("M0237" : Text)))
        ∘ Diagnostic.pastFixes one.applied
          = fun d => decide (d.code = ("M0236" : Text) ∨ d.code = ("M0237" : Text)) := rfl
    rw [List.filter_map, hcomp, hdot, List.map_singleton]
  have happend : ∀ o ≤ text.length, one.content
      = Text.without gone 0 (text.take o) ++ Text.without gone o (text.drop o) := by
    intro o ho
    have happend := content_eq_append hdel o ho
    rwa [← hone, hgone] at happend
  have hread : (Snapshot.ofText one.content).textAt moved
      = Text.without gone start (text.slice start stop) := by
    have hslice := slice_content hdel hstartLe hstopLe
    rw [← hone, hgone] at hslice
    rw [Snapshot.textAt, hstart, hstop]
    exact hslice
  have htwo : (treat .standard own text).two
      = runPhase .standard .second (own.map (Diagnostic.pastFixes one.applied)) one.content := rfl
  have hturned := runPhase_call one.content hdots hcode (hread ▸ hcall) hargs
  constructor
  · have hbefore : one.content.take (Text.without gone 0 (text.take start)).length
        = Text.without gone 0 (text.take start) := by rw [happend start hstartLe, List.take_left]
    have hbehind : one.content.drop (Text.without gone 0 (text.take stop)).length
        = Text.without gone stop (text.drop stop) := by rw [happend stop hstopLe, List.drop_left]
    rw [htwo, hturned]
    change one.content.take ((Snapshot.ofText one.content).offset moved.start) ++ _
      ++ one.content.drop ((Snapshot.ofText one.content).offset moved.stop) = _
    rw [hstart, hstop, hbefore, hbehind]
    rfl
  · rw [Treatment.codes, htwo, hturned, codes_treat_one hinsts hline hapart]
    rfl

/-- **Deletions, and a call anywhere.**  Its ends are positions of the text, and what the deletions
leave of it is read as a call. -/
lemma treat_call_across (hstart : (Snapshot.ofText text).Admits dot.range.start)
    (hstop : (Snapshot.ofText text).Admits dot.range.stop) :
    let start := (Snapshot.ofText text).offset dot.range.start
    let stop := (Snapshot.ofText text).offset dot.range.stop
    let gone := deletedBy (.ofText text) (insts.map Diagnostic.deletion)
    Call.parse? (Text.without gone start (text.slice start stop)) = some call →
      call.args = receiver :: rest →
        (treat .standard own text).two.content
            = Text.without gone 0 (text.take start)
              ++ Rule.dotForm receiver (Rule.method dot.message call) rest
              ++ Text.without gone stop (text.drop stop) ∧
          (treat .standard own text).codes
            = List.replicate insts.length ("M0223" : Text) ++ [("M0236" : Text)] := by
  intro start stop gone hcall hargs
  obtain ⟨fixes, -, hdel, hone⟩ := exists_treat_one hinsts hline
  have hgone : deletedBy (.ofText text) (applyFixes (.ofText text) fixes).applied = gone := by
    rw [← hone]
    exact deletedBy_treat_one hinsts hline hapart
  have hmoved := range_pastFixes (fun f hf => deletesIn_of_mem_applied hdel hf) dot
  refine treat_call hinsts hline hapart hdot hcode (Snapshot.offset_le_length _ _)
    (Snapshot.offset_le_length _ _) ?_ ?_ hcall hargs
  · rw [hone, hmoved, offset_pastDeletions hdel hstart, hgone]
    rfl
  · rw [hone, hmoved, offset_pastDeletions hdel hstop, hgone]
    rfl

/-- **Deletions, and a call below them.** -/
lemma treat_call_below
    (hbelow : ∀ d ∈ insts, d.range.stop.line < dot.range.start.line ∧
      d.range.stop.line < dot.range.stop.line)
    (hcall : Call.parse? ((Snapshot.ofText text).textAt dot.range) = some call)
    (hargs : call.args = receiver :: rest) :
    let start := (Snapshot.ofText text).offset dot.range.start
    let stop := (Snapshot.ofText text).offset dot.range.stop
    let new := Text.without (deletedBy (.ofText text) (insts.map Diagnostic.deletion)) 0
        (text.take start) ++ Rule.dotForm receiver (Rule.method dot.message call) rest
      ++ text.drop stop
    (treat .standard own text).two.content = new ∧
      (treat .standard own text).codes
        = List.replicate insts.length ("M0223" : Text) ++ [("M0236" : Text)] ∧ new ≠ text := by
  intro start stop new
  set s := Snapshot.ofText text with hs
  obtain ⟨fixes, hperm, hdel, hone⟩ := exists_treat_one hinsts hline
  have hgone : deletedBy s (applyFixes s fixes).applied
      = deletedBy s (insts.map Diagnostic.deletion) := by
    rw [← hone]
    exact deletedBy_treat_one hinsts hline hapart
  have hbelow' : ∀ f ∈ fixes, f.range.stop.line < dot.range.start.line ∧
      f.range.stop.line < dot.range.stop.line := by
    intro f hf
    obtain ⟨d, hd, rfl⟩ := List.mem_map.mp (hperm.mem_iff.mp hf)
    exact hbelow d hd
  have hstart : ∀ f ∈ fixes, f.range.stop.line < dot.range.start.line :=
    fun f hf => (hbelow' f hf).1
  have hstop : ∀ f ∈ fixes, f.range.stop.line < dot.range.stop.line :=
    fun f hf => (hbelow' f hf).2
  set gone := deletedBy s (insts.map Diagnostic.deletion) with hgone'
  -- Nothing is deleted from the call on.
  have hkept : ∀ {p : Position}, (∀ f ∈ fixes, f.range.stop.line < p.line) →
      ∀ j, s.offset p ≤ j → gone j = false := by
    intro p hp j hj
    refine deletedBy_eq_false fun f hf => Or.inr ?_
    exact Nat.le_trans (stopIn_le_offset hdel hp (hperm.mem_iff.mpr hf)) hj
  have hmoved : (dot.pastFixes (applyFixes s fixes).applied).range = dot.range := by
    rw [range_pastFixes (fun f hf => deletesIn_of_mem_applied hdel hf),
      pastDeletions_below hdel hstart, pastDeletions_below hdel hstop]
  have hread : Text.without gone start (text.slice start stop) = s.textAt dot.range :=
    Text.without_eq_self _ _ fun j hj _ => hkept hstart j hj
  have hbehind : Text.without gone stop (text.drop stop) = text.drop stop :=
    Text.without_eq_self _ _ fun j hj _ => hkept hstop j hj
  obtain ⟨hcontent, hcodes⟩ := treat_call hinsts hline hapart hdot hcode
    (show start ≤ text.length from s.offset_le_length _)
    (show stop ≤ text.length from s.offset_le_length _)
    (by rw [hone, hmoved, offset_below hdel hstart, hgone]; rfl)
    (by rw [hone, hmoved, offset_below hdel hstop, hgone]; rfl) (hread.symm ▸ hcall) hargs
  rw [hbehind] at hcontent
  refine ⟨hcontent, hcodes, ?_⟩
  have hlt : start < stop := by
    refine Nat.lt_of_not_le fun hle => ?_
    have hnil : s.textAt dot.range = [] := text.slice_eq_nil hle
    rw [hnil] at hcall
    cases hcall
  have hlen : stop ≤ text.length := s.offset_le_length _
  have hposition := endPosition_without_below hdel hstart (o := start) (s.offset_le_length _)
    (Snapshot.line_le_of_offset_lt text dot.range.start (Nat.lt_of_lt_of_le hlt hlen))
  rw [hgone] at hposition
  exact Text.append_ne_of_endPosition_eq (Nat.le_of_lt hlt) (s.offset_le_length _) hposition
    (Rule.dotForm_ne dot.message hcall hargs)

end

lemma filter_codes_of_perm {own : List Diagnostic} {dot : Diagnostic} {insts : List Diagnostic}
    (hperm : own.Perm (dot :: insts)) (hdot : dot.code = "M0236")
    (hinsts : ∀ d ∈ insts, d.code = "M0223") :
    (own.filter (·.code = ("M0223" : Text))).Perm insts ∧
      own.filter (fun d => d.code = ("M0236" : Text) ∨ d.code = ("M0237" : Text)) = [dot] := by
  have hfirst : (dot :: insts).filter (·.code = ("M0223" : Text)) = insts := by
    rw [List.filter_cons_of_neg (by rw [hdot]; decide)]
    exact List.filter_eq_self.mpr fun d hd => decide_eq_true (hinsts d hd)
  have hsecond : (dot :: insts).filter
      (fun d => d.code = ("M0236" : Text) ∨ d.code = ("M0237" : Text)) = [dot] := by
    rw [List.filter_cons_of_pos (by rw [hdot]; decide)]
    refine congrArg (dot :: ·) (List.filter_eq_nil_iff.mpr fun d hd => ?_)
    rw [hinsts d hd]
    decide
  exact ⟨hfirst ▸ hperm.filter _, List.perm_singleton.mp (hsecond ▸ hperm.filter _)⟩

/-- **Calls below removed instantiations.**  Any number of instantiations, each on one line, and a
call on lines below them, reported in any order under one path.  What the pass gives for the file is
its text without the instantiations and with the call turned around. -/
theorem Session.fix_turns_call_below (session : Session) (hreg : session.registry = .standard)
    (files : Table Text Text) (output : Option Text) (dot : Diagnostic) (insts : List Diagnostic)
    (hparsed : (Diagnostic.parse output).Perm (dot :: insts))
    (hdot : dot.code = "M0236") (hinsts : ∀ d ∈ insts, d.code = "M0223" ∧ d.file = dot.file)
    (key text : Text) (hkey : FileKey.find? files.keys dot.file = some key)
    (htext : files.get? key = some text)
    (hline : ∀ d ∈ insts, d.range.OnLine (.ofText text))
    (hapart : insts.Pairwise fun d e => d.range.Apart (.ofText text) e.range)
    (hbelow : ∀ d ∈ insts, d.range.stop.line < dot.range.start.line ∧
      d.range.stop.line < dot.range.stop.line)
    (call : Call) (receiver : Text) (rest : List Text)
    (hcall : Call.parse? ((Snapshot.ofText text).textAt dot.range) = some call)
    (hargs : call.args = receiver :: rest) :
    (session.fix files output).2.1 = some {
      files := .ofList [(key,
        Text.without (deletedBy (.ofText text) (insts.map Diagnostic.deletion)) 0
            (text.take ((Snapshot.ofText text).offset dot.range.start))
          ++ Rule.dotForm receiver (Rule.method dot.message call) rest
          ++ text.drop ((Snapshot.ofText text).offset dot.range.stop))]
      counts := Counts.tally .empty
        (List.replicate insts.length ("M0223" : Text) ++ [("M0236" : Text)]) } := by
  obtain ⟨hfirst, hsecond⟩ := filter_codes_of_perm hparsed hdot fun d hd => (hinsts d hd).1
  obtain ⟨hcontent, hcodes, hne⟩ :=
    treat_call_below hfirst hline hapart hsecond hdot hbelow hcall hargs
  have hfile : ∀ d ∈ Diagnostic.parse output, d.file = dot.file := by
    intro d hd
    rcases List.mem_cons.mp (hparsed.mem_iff.mp hd) with rfl | hd
    · rfl
    · exact (hinsts d hd).2
  have hparsedNe : Diagnostic.parse output ≠ [] := by
    intro hnil
    rw [hnil] at hparsed
    exact absurd hparsed.length_eq (by simp)
  have hfix := session.fix_of_one_file files output hparsedNe hfile hkey htext
    (by rw [hreg, hcontent]; exact hne)
  rw [hreg, hcontent, hcodes] at hfix
  exact hfix

/-- Two instantiations on one line, with a character that takes two code units between them, and a
call on two lines below. -/
theorem Session.fix_turns_call_below_nested :
    let files : Table Text Text := .ofList [("A.mo", "f<T>(😀<U>(x));\n M.h(a,\n b);")]
    let output : Text :=
      "A.mo:2.2-3.4: warning [M0236], use\n" ++ "A.mo:1.8-1.11: warning [M0223], b\n" ++
        "A.mo:1.2-1.5: warning [M0223], a"
    (({} : Session).fix files output).2.1
      = some ⟨.ofList [("A.mo", "f(😀(x));\n a.h(b);")], .ofList [("M0223", 2), ("M0236", 1)]⟩ := by
  intro files output
  let text : Text := "f<T>(😀<U>(x));\n M.h(a,\n b);"
  let dot : Diagnostic := ⟨"A.mo", .ofCoords 1 1 2 3, "M0236", "use", .warning⟩
  let insts : List Diagnostic :=
    [⟨"A.mo", .ofCoords 0 1 0 4, "M0223", "a", .warning⟩,
     ⟨"A.mo", .ofCoords 0 7 0 10, "M0223", "b", .warning⟩]
  have hfacts : (Diagnostic.parse output).Perm (dot :: insts) ∧
      (∀ d ∈ insts, d.range.OnLine (.ofText text)) ∧
      insts.Pairwise (fun d e => d.range.Apart (.ofText text) e.range) ∧
      Call.parse? ((Snapshot.ofText text).textAt dot.range)
        = some ⟨"M.h", [("a" : Text), ("b" : Text)]⟩ := by decide +kernel
  obtain ⟨hparsed, hline, hapart, hcall⟩ := hfacts
  have hfix := fix_turns_call_below {} rfl files output dot insts hparsed rfl (by decide) "A.mo"
    text (by decide) rfl hline hapart (by decide) _ "a" [("b" : Text)] hcall rfl
  exact hfix.trans (by decide +kernel)

/-- **An instantiation on two lines.**  It is deleted, but the call below it is not found again:
another call, which nobody has reported, is turned around in its place. -/
theorem Session.fix_call_below_two_lines :
    let text : Text := "f<\nA>(x);\nM.g(a, b);\nM.g(c, d);"
    let files : Table Text Text := .ofList [("Main.mo", text)]
    let output : Text :=
      "Main.mo:1.2-2.3: warning [M0223], a\nMain.mo:3.1-3.10: warning [M0236], b"
    let inst : Diagnostic := ⟨"Main.mo", .ofCoords 0 1 1 2, "M0223", "a", .warning⟩
    let dot : Diagnostic := ⟨"Main.mo", .ofCoords 2 0 2 9, "M0236", "b", .warning⟩
    let s := Snapshot.ofText text
    Diagnostic.parse output = [inst, dot] ∧
      s.Admits inst.range.start ∧ s.Admits inst.range.stop ∧
      s.offset inst.range.start < s.offset inst.range.stop ∧
      inst.range.stop.line < dot.range.start.line ∧
      Call.parse? (s.textAt dot.range) = some ⟨"M.g", [("a" : Text), ("b" : Text)]⟩ ∧
      (({} : Session).fix files output).2.1.map (·.files)
        = some (.ofList [("Main.mo", "f(x);\nM.g(a, b);\nc.g(d);")]) ∧
      (({} : Session).fix files output).2.1.map (·.files)
        ≠ some (.ofList [("Main.mo", Text.without (deletedBy s [inst.deletion]) 0
            (text.take (s.offset dot.range.start)) ++ Rule.dotForm "a" "g" [("b" : Text)]
          ++ text.drop (s.offset dot.range.stop))]) := by
  decide +kernel

end Amend
