import Amend.Proofs.ArgumentLists
import Amend.Proofs.PassOrder

/-!
# Several arguments less

A call on one line, any set of whose arguments is redundant.  All fixes are made for one snapshot,
each as if it were alone, and neighbours share the comma between them.

**The deletions.**  An argument that another one follows goes with everything up to that one
(`argumentRange_inner`), so neighbouring deletions touch and do not overlap.  The last argument has
no comma behind it and goes with the one before it (`argumentRange_last`), which the argument in
front of it needs as well.

**The sweep.**  Fixes are applied from the last one to the first, so the state is followed from one
index to the index before it.  `Swept` is what holds on the way: before the argument the text is
still the old one, and what stands behind it reads as the arguments that are left.  Away from the
end every fix is applied (`Swept.step`); at the end there are three cases, one lemma for each.
-/

namespace Amend

open Slot (lead joined behind)

namespace Snapshot

lemma offset_of_prefix {w t : Text} (h : w <+: t) : (ofText t).offset w.endPosition = w.length := by
  obtain ⟨rest, rfl⟩ := h
  exact offset_endPosition_append w rest

lemma admits_of_prefix {w t : Text} (h : w <+: t) : (ofText t).Admits w.endPosition := by
  obtain ⟨rest, rfl⟩ := h
  exact admits_endPosition_append w rest

end Snapshot

/-! ## The deletions on one line -/

namespace Rule

/-- On one line, the comma behind an argument goes with all gaps up to the next argument. -/
lemma separatorAfter_gaps {g g' : Text} (hg : ∀ c ∈ g, isGap c) (hg' : ∀ c ∈ g', isGap c)
    {c : Char} (hc : ¬ isBlank c) (t : Text) :
    separatorAfter (g ++ ',' :: (g' ++ c :: t)) = g ++ ',' :: g' := by
  have hgap : ¬ isGap c := fun h => hc (isBlank_of_isGap h)
  have hline : '\n' ∉ g ++ ',' :: (g' ++ [c]) := by
    intro hmem
    simp only [List.mem_append, List.mem_cons, List.not_mem_nil, or_false] at hmem
    rcases hmem with hmem | hmem | hmem | hmem
    · exact absurd (hg _ hmem) (by decide)
    · exact absurd hmem (by decide)
    · exact absurd (hg' _ hmem) (by decide)
    · exact hc (hmem ▸ by decide)
  have hfirst := Text.firstLine_append hline t
  have htake : (g' ++ c :: t.firstLine).takeWhile isGap = g' := by
    rw [List.takeWhile_append_of_pos hg', List.takeWhile_cons_of_neg hgap, List.append_nil]
  simp only [List.append_assoc, List.cons_append, List.nil_append] at hfirst
  rw [separatorAfter, hfirst, commaAhead?_append hg, htake]

/-- Anything else behind the argument leaves it without a comma there. -/
lemma separatorAfter_eq_nil {g : Text} (hg : ∀ c ∈ g, isGap c) {c : Char} (hc : ¬ isBlank c)
    (hcomma : c ≠ ',') (t : Text) : separatorAfter (g ++ c :: t) = [] := by
  have hgap : ¬ isGap c := fun h => hc (isBlank_of_isGap h)
  have hline : '\n' ∉ g ++ [c] := by
    intro hmem
    rcases List.mem_append.mp hmem with hmem | hmem
    · exact absurd (hg _ hmem) (by decide)
    · exact hc (List.mem_singleton.mp hmem ▸ by decide)
  have hfirst := Text.firstLine_append hline t
  rw [List.append_assoc, List.append_assoc, List.singleton_append, List.singleton_append] at hfirst
  have hblank : ¬ Text.isBlankText (g ++ c :: t.firstLine) :=
    fun h => hc (List.all_eq_true.mp h c (by simp))
  rw [separatorAfter, hfirst, commaAhead?_eq_none hg hgap hcomma]
  simp [hblank]

lemma separatorBefore_append (front : Text) {g : Text} (hg : ∀ c ∈ g, isGap c) :
    separatorBefore (front ++ ',' :: g) = ',' :: g := by
  have hline : '\n' ∉ ',' :: g := fun h =>
    (List.mem_cons.mp h).elim (by decide) fun h => absurd (hg _ h) (by decide)
  rw [separatorBefore, Text.lastLine_append hline, commaBehind?_append hg]

lemma separatorBefore_eq_nil (front : Text) {g : Text} (hg : ∀ c ∈ g, isGap c) :
    separatorBefore (front ++ '(' :: g) = [] := by
  have hline : '\n' ∉ '(' :: g := fun h =>
    (List.mem_cons.mp h).elim (by decide) fun h => absurd (hg _ h) (by decide)
  rw [separatorBefore, Text.lastLine_append hline,
    commaBehind?_eq_none hg (by decide) (by decide)]

/-- **A deletion that leaves text before it on its line**: the argument and the comma next to it. -/
lemma argumentRange_beside {u x v w a b : Text} (hu : u = w ++ a) (hb : separatorAfter v = b)
    (ha : (if b = [] then separatorBefore u else []) = a) (hw : ¬ w.lastLine.isBlankText) :
    argumentRange (.ofText (u ++ x ++ v)) ⟨u.endPosition, Text.endPosition (u ++ x)⟩
      = ⟨w.endPosition, Text.endPosition (u ++ x ++ b)⟩ := by
  obtain ⟨w', a', b', z, hu', -, rfl, rfl, hwith⟩ := withComma_eq u x v
  rw [hb, ha, hu] at hu'
  obtain rfl := List.append_cancel_right hu'
  rw [hb] at hwith
  have hbefore : (Snapshot.ofText (u ++ x ++ v)).lineBefore w.endPosition.line
      w.endPosition.character = w.lastLine := by
    have hline := Snapshot.lineBefore_append w (a ++ x ++ v)
    rwa [← List.append_assoc, ← List.append_assoc, ← hu] at hline
  simp only [argumentRange, hwith, standsAlone, hbefore, hw, Bool.false_and, Bool.false_eq_true,
    if_false]

/-- Behind the opening bracket on its line, a text is not blank. -/
lemma not_isBlankText_lastLine (pre : Text) {t : Text} (ht : '\n' ∉ t) :
    ¬ (Text.lastLine (pre ++ '(' :: t)).isBlankText := by
  have hline : '\n' ∉ '(' :: t := fun hmem => (List.mem_cons.mp hmem).elim (by decide) ht
  rw [Text.lastLine_append hline]
  exact fun hblank => absurd (List.all_eq_true.mp hblank '(' (by simp)) (by decide)

end Rule

namespace ArgumentList

/-- The list stands on one line and does not end in a comma. -/
structure OneLine (list : ArgumentList) : Prop where
  ending_eq : list.ending = none
  newline_not_mem : '\n' ∉ list.text

variable {list : ArgumentList} (pre post : Text) {i j : Fin list.slots.length}

lemma front_succ (hj : (j : Nat) = i + 1) : list.front pre j = list.front pre i ++
    ((list.slot i).argument ++ (list.slot i).after ++ ',' :: (list.slot j).before) := by
  have htake : list.slots.take j = list.slots.take i ++ [list.slot i] := by
    rw [hj, List.take_succ_eq_append_getElem i.isLt]
    rfl
  rw [front, front, htake, Slot.lead_concat, Slot.text]
  simp

lemma behind_succ (hj : (j : Nat) = i + 1) : behind list.ending (list.slots.drop (i + 1))
    = ',' :: ((list.slot j).text ++ behind list.ending (list.slots.drop (j + 1))) := by
  have hdrop : list.slots.drop (i + 1) = list.slot j :: list.slots.drop (j + 1) := by
    rw [← hj, List.drop_eq_getElem_cons j.isLt]
    rfl
  rw [hdrop, behind, if_neg (by simp), Slot.joined_cons]

namespace OneLine

variable (h : list.OneLine)
include h

lemma behind_last (hi : (i : Nat) + 1 = list.slots.length) :
    behind list.ending (list.slots.drop (i + 1)) = [] := by
  rw [behind, if_pos ⟨List.drop_eq_nil_iff.mpr (Nat.le_of_eq hi.symm), h.ending_eq⟩]

lemma not_mem_parts (i : Fin list.slots.length) :
    '\n' ∉ lead (list.slots.take i) ∧ '\n' ∉ (list.slot i).before ∧
      '\n' ∉ (list.slot i).argument ∧ '\n' ∉ (list.slot i).after := by
  have hline := h.newline_not_mem
  rw [list.text_eq i, Slot.text] at hline
  simp only [List.mem_append, not_or] at hline
  exact ⟨hline.1, hline.2.1.1.1, hline.2.1.1.2, hline.2.1.2⟩

lemma gaps_before (i : Fin list.slots.length) : ∀ c ∈ (list.slot i).before, Rule.isGap c :=
  isGap_of_isLayout (list.slot i).layout_before (h.not_mem_parts i).2.1

lemma gaps_after (i : Fin list.slots.length) : ∀ c ∈ (list.slot i).after, Rule.isGap c :=
  isGap_of_isLayout (list.slot i).layout_after (h.not_mem_parts i).2.2.2

/-- **The deletion of an argument that another one follows** ends where that one begins. -/
lemma argumentRange_inner (hj : (j : Nat) = i + 1) :
    Rule.argumentRange (.ofText (list.file pre post)) (list.rangeAt pre i)
      = ⟨(list.front pre i).endPosition, (list.front pre j).endPosition⟩ := by
  obtain ⟨c, cs, hfirst, hc⟩ := (list.slot j).exists_first
  obtain ⟨hlead, hbefore, -, -⟩ := h.not_mem_parts i
  have hsep := Rule.separatorAfter_gaps (h.gaps_after i) (h.gaps_before j) hc
    (cs ++ (list.slot j).after ++ behind list.ending (list.slots.drop (j + 1)) ++ ')' :: post)
  have hrange := Rule.argumentRange_beside (x := (list.slot i).argument)
    (List.append_nil (list.front pre i)).symm hsep (by simp)
    (Rule.not_isBlankText_lastLine pre (by simp [hlead, hbefore]))
  rw [front_succ pre hj, list.file_eq pre post i, behind_succ hj, rangeAt, Slot.text, hfirst]
  simpa using hrange

/-- **The deletion of the last argument** begins before the comma that ends the one before it. -/
lemma argumentRange_last (hj : (j : Nat) = i + 1) (hlast : (j : Nat) + 1 = list.slots.length) :
    Rule.argumentRange (.ofText (list.file pre post)) (list.rangeAt pre j)
      = ⟨(list.front pre i ++ (list.slot i).argument ++ (list.slot i).after).endPosition,
        (list.front pre j ++ (list.slot j).argument).endPosition⟩ := by
  obtain ⟨hlead, hbefore, hargument, hafter⟩ := h.not_mem_parts i
  have hsep := Rule.separatorAfter_eq_nil (h.gaps_after j) (show ¬ isBlank ')' by decide)
    (by decide) post
  have hfront : list.front pre j = list.front pre i ++ (list.slot i).argument
      ++ (list.slot i).after ++ ',' :: (list.slot j).before := by
    rw [front_succ pre hj]
    simp
  have hcomma := Rule.separatorBefore_append
    (list.front pre i ++ (list.slot i).argument ++ (list.slot i).after) (h.gaps_before j)
  rw [← hfront] at hcomma
  have hstart : ¬ (Text.lastLine (list.front pre i ++ (list.slot i).argument
      ++ (list.slot i).after)).isBlankText := by
    have hline := Rule.not_isBlankText_lastLine pre (t := lead (list.slots.take i) ++
      (list.slot i).before ++ (list.slot i).argument ++ (list.slot i).after)
      (by simp [hlead, hbefore, hargument, hafter])
    simpa [front] using hline
  have hrange := Rule.argumentRange_beside (x := (list.slot j).argument) hfront hsep
    (by rw [if_pos rfl, hcomma]) hstart
  rw [list.file_eq pre post j, h.behind_last hlast, rangeAt]
  simpa using hrange

/-- The deletion of an argument that is the only one. -/
lemma argumentRange_only (hi : (i : Nat) = 0) (hlast : (i : Nat) + 1 = list.slots.length) :
    Rule.argumentRange (.ofText (list.file pre post)) (list.rangeAt pre i)
      = list.rangeAt pre i := by
  obtain ⟨-, hbefore, -, -⟩ := h.not_mem_parts i
  have hsep := Rule.separatorAfter_eq_nil (h.gaps_after i) (show ¬ isBlank ')' by decide)
    (by decide) post
  have hfront : list.front pre i = pre ++ '(' :: (list.slot i).before := by
    simp [front, hi, lead]
  have hnone := Rule.separatorBefore_eq_nil pre (h.gaps_before i)
  have hrange := Rule.argumentRange_beside (x := (list.slot i).argument)
    (List.append_nil (pre ++ '(' :: (list.slot i).before)).symm hsep (by rw [if_pos rfl, hnone])
    (Rule.not_isBlankText_lastLine pre hbefore)
  rw [list.file_eq pre post i, h.behind_last hlast, rangeAt, hfront]
  simpa using hrange

end OneLine

/-! ## The order of the deletions -/

lemma exists_front_of_lt (hij : i < j) : ∃ t, list.front pre j
    = list.front pre i ++ ((list.slot i).argument ++ (list.slot i).after ++ ',' :: t) := by
  have hdrop : (list.slots.take j).drop i = list.slot i :: (list.slots.take j).drop (i + 1) := by
    rw [List.drop_eq_getElem_cons (by simpa using hij)]
    simp [slot]
  have htake := List.take_append_drop i (list.slots.take j)
  rw [List.take_take, Nat.min_eq_left (Nat.le_of_lt hij), hdrop] at htake
  generalize (list.slots.take j).drop (i + 1) = rest at htake
  refine ⟨lead rest ++ (list.slot j).before, ?_⟩
  rw [front, front, ← htake]
  simp [lead, Slot.text]

lemma prefix_file (i : Fin list.slots.length) {t : Text}
    (ht : t <+: (list.slot i).argument ++ (list.slot i).after) :
    list.front pre i ++ t <+: list.file pre post := by
  obtain ⟨rest, hrest⟩ := ht
  refine ⟨rest ++ (behind list.ending (list.slots.drop (i + 1)) ++ ')' :: post), ?_⟩
  rw [list.file_eq pre post i, List.append_assoc, ← List.append_assoc t, hrest]
  simp

lemma front_prefix_file (i : Fin list.slots.length) : list.front pre i <+: list.file pre post := by
  have hprefix := prefix_file pre post i List.nil_prefix
  rwa [List.append_nil] at hprefix

/-- The fix of an argument. -/
def fixAt (list : ArgumentList) (pre post : Text) (i : Fin list.slots.length) : Fix :=
  .ofEdit (.deletion (Rule.argumentRange (.ofText (list.file pre post)) (list.rangeAt pre i)))
    "M0237"

lemma range_fixAt (i : Fin list.slots.length) : (list.fixAt pre post i).range
    = Rule.argumentRange (.ofText (list.file pre post)) (list.rangeAt pre i) := by
  rw [fixAt, Fix.ofEdit, Edit.deletion]

namespace OneLine

variable (h : list.OneLine)
include h

/-- Where the deletion of an argument starts: at the argument, or for the last one of several
behind the argument before it. -/
lemma exists_start (i : Fin list.slots.length) : ∃ w : Text, w <+: list.file pre post ∧
    (list.fixAt pre post i).range.start = w.endPosition ∧
    ((i : Nat) + 1 < list.slots.length → w = list.front pre i) ∧
    ∀ k < i, (list.front pre k).length < w.length := by
  have hlonger : ∀ {k i : Fin list.slots.length}, k < i →
      (list.front pre k).length < (list.front pre i).length := by
    intro k i hk
    obtain ⟨t, ht⟩ := exists_front_of_lt pre hk
    rw [ht, List.length_append, List.length_append, List.length_cons]
    omega
  have hprefix := front_prefix_file pre post i
  by_cases hnext : (i : Nat) + 1 < list.slots.length
  · obtain ⟨j, hj⟩ : ∃ j : Fin list.slots.length, (j : Nat) = i + 1 := ⟨⟨i + 1, hnext⟩, rfl⟩
    have hrange := h.argumentRange_inner pre post hj
    exact ⟨list.front pre i, hprefix, congrArg Range.start hrange, fun _ => rfl, fun _ => hlonger⟩
  · have hlast : (i : Nat) + 1 = list.slots.length := by omega
    rcases Nat.eq_zero_or_pos (i : Nat) with hzero | hpos
    · have hrange := h.argumentRange_only pre post hzero hlast
      exact ⟨list.front pre i, hprefix, congrArg Range.start hrange, fun _ => rfl, fun _ => hlonger⟩
    · obtain ⟨l, hl⟩ : ∃ l : Fin list.slots.length, (i : Nat) = l + 1 :=
        ⟨⟨i - 1, by omega⟩, by simp only; omega⟩
      have hrange := h.argumentRange_last pre post hl hlast
      refine ⟨_, ?_, congrArg Range.start hrange, by omega, fun k hk => ?_⟩
      · rw [List.append_assoc]
        exact prefix_file pre post l List.prefix_rfl
      · have hle : (list.front pre k).length ≤ (list.front pre l).length := by
          have hk' : (k : Nat) < i := hk
          rcases Nat.lt_or_eq_of_le (show (k : Nat) ≤ l by omega) with hlt | heq
          · exact Nat.le_of_lt (hlonger hlt)
          · rw [Fin.ext heq]
        have hpos := List.length_pos_iff.mpr (list.slot l).ne_nil
        simp only [List.length_append]
        omega

/-- A deletion further behind starts later. -/
lemma not_start_le {i j : Fin list.slots.length} (hij : i < j) :
    ¬ (list.fixAt pre post j).range.start ≤ (list.fixAt pre post i).range.start := by
  obtain ⟨w, hprefix, hw, hfront, -⟩ := h.exists_start pre post i
  obtain ⟨w', hprefix', hw', -, hlater⟩ := h.exists_start pre post j
  have hlt : w.length < w'.length := by
    rw [hfront (by omega)]
    exact hlater i hij
  rw [hw, hw']
  intro hle
  have hge := Snapshot.offset_le_offset (Snapshot.admits_of_prefix hprefix').holds
    (Snapshot.admits_of_prefix hprefix).holds hle
  rw [Snapshot.offset_of_prefix hprefix, Snapshot.offset_of_prefix hprefix'] at hge
  omega

lemma ends_inner (hj : (j : Nat) = i + 1) :
    (list.fixAt pre post i).startIn (.ofText (list.file pre post)) = (list.front pre i).length ∧
      (list.fixAt pre post i).stopIn (.ofText (list.file pre post))
        = (list.front pre j).length := by
  rw [Fix.startIn, Fix.stopIn, range_fixAt, h.argumentRange_inner pre post hj]
  exact ⟨Snapshot.offset_of_prefix (front_prefix_file pre post i),
    Snapshot.offset_of_prefix (front_prefix_file pre post j)⟩

lemma ends_last (hj : (j : Nat) = i + 1) (hlast : (j : Nat) + 1 = list.slots.length) :
    (list.fixAt pre post j).startIn (.ofText (list.file pre post))
        = (list.front pre i ++ (list.slot i).argument ++ (list.slot i).after).length ∧
      (list.fixAt pre post j).stopIn (.ofText (list.file pre post))
        = (list.front pre j ++ (list.slot j).argument).length := by
  have hstart := prefix_file pre post i List.prefix_rfl
  rw [← List.append_assoc] at hstart
  rw [Fix.startIn, Fix.stopIn, range_fixAt, h.argumentRange_last pre post hj hlast]
  exact ⟨Snapshot.offset_of_prefix hstart,
    Snapshot.offset_of_prefix (prefix_file pre post j (List.prefix_append _ _))⟩

lemma ends_only (hi : (i : Nat) = 0) (hlast : (i : Nat) + 1 = list.slots.length) :
    (list.fixAt pre post i).startIn (.ofText (list.file pre post)) = (list.front pre i).length ∧
      (list.fixAt pre post i).stopIn (.ofText (list.file pre post))
        = (list.front pre i ++ (list.slot i).argument).length := by
  rw [Fix.startIn, Fix.stopIn, range_fixAt, h.argumentRange_only pre post hi hlast]
  exact ⟨Snapshot.offset_of_prefix (front_prefix_file pre post i),
    Snapshot.offset_of_prefix (prefix_file pre post i (List.prefix_append _ _))⟩

end OneLine

end ArgumentList

/-- Fixes are sorted in one way only if they start at different places. -/
lemma Fix.sort_eq_of_perm {fixes ordered : List Fix} (h : fixes.Perm ordered)
    (hlater : ordered.Pairwise fun f g => ¬ f.range.start ≤ g.range.start) :
    sort fixes = ordered := by
  have hpairwise : ordered.Pairwise fun f g => startsNoEarlier f g := by
    refine hlater.imp fun {f g} hfg => ?_
    rw [startsNoEarlier, decide_eq_true_eq]
    rw [Position.le_def] at hfg ⊢
    omega
  have hapart : (ordered.map fun f => f.range.start).Nodup := by
    refine List.pairwise_map.mpr (hlater.imp fun {f g} hfg heq => hfg ?_)
    rw [heq]
    exact .inr ⟨rfl, Int.le_refl _⟩
  have hsorted := (perm_sort fixes).trans h
  refine hsorted.eq_of_pairwise (fun f g hf hg hfg hgf => ?_) (pairwise_sort fixes) hpairwise
  refine List.inj_on_of_nodup_map hapart (hsorted.mem_iff.mp hf) hg ?_
  exact Position.le_antisymm (of_decide_eq_true hgf) (of_decide_eq_true hfg)

/-! ## The sweep -/

/-- The argument before the last one is spared if the last one goes. -/
def Spared {n : Nat} (indices : List (Fin n)) (i : Fin n) : Prop :=
  (i : Nat) + 2 = n ∧ ∃ j ∈ indices, (j : Nat) + 1 = n

instance {n : Nat} (indices : List (Fin n)) (i : Fin n) : Decidable (Spared indices i) :=
  inferInstanceAs (Decidable ((i : Nat) + 2 = n ∧ ∃ j ∈ indices, (j : Nat) + 1 = n))

section

variable {n : Nat} (indices : List (Fin n))

/-- The members from some index on, in falling order. -/
def falling (k : Nat) : List (Fin n) := ((List.finRange n).drop k).reverse.filter (· ∈ indices)

/-- The indices from some index on whose arguments a batch leaves. -/
def survivors (k : Nat) : List (Fin n) :=
  ((List.finRange n).drop k).filter fun i => i ∉ indices ∨ Spared indices i

lemma drop_finRange (i : Fin n) :
    (List.finRange n).drop i = i :: (List.finRange n).drop (i + 1) := by
  rw [List.drop_eq_getElem_cons (by simp), List.getElem_finRange]
  rfl

lemma falling_eq (i : Fin n) :
    falling indices i = falling indices (i + 1) ++ if i ∈ indices then [i] else [] := by
  rw [falling, drop_finRange, List.reverse_cons, List.filter_append, ← falling]
  congr 1
  split <;> simp_all

lemma falling_end : falling indices n = [] := by
  rw [falling, List.drop_of_length_le (by simp)]
  rfl

lemma survivors_eq (i : Fin n) : survivors indices i
    = if i ∉ indices ∨ Spared indices i then i :: survivors indices (i + 1)
      else survivors indices (i + 1) := by
  rw [survivors, drop_finRange, List.filter_cons, ← survivors]
  simp only [decide_eq_true_eq]

lemma survivors_end : survivors indices n = [] := by
  rw [survivors, List.drop_of_length_le (by simp)]
  rfl

lemma perm_falling (h : indices.Nodup) : indices.Perm (falling indices 0) := by
  have hnodup : (falling indices 0).Nodup :=
    (List.nodup_reverse.mpr (List.nodup_finRange n)).filter _
  refine (List.perm_ext_iff_of_nodup h hnodup).mpr fun i => ?_
  simp [falling]

lemma pairwise_falling : (falling indices 0).Pairwise fun i j => j < i := by
  have hfinRange := List.pairwise_reverse.mpr (List.pairwise_lt_finRange n)
  exact hfinRange.filter _

end

/-- A first fix is always applied. -/
lemma Splice.step_start (s : Snapshot) (f : Fix) : step s (.start s) f =
    { content := s.text.take (f.startIn s) ++ f.newText ++ s.text.drop (f.stopIn s)
      applied := [f], limit := some (f.startIn s) } := rfl

namespace ArgumentList

variable (list : ArgumentList) (pre post : Text) (indices : List (Fin list.slots.length))

/-- The state after the fixes from an index on. -/
def sweep (k : Nat) : Splice :=
  ((falling indices k).map (list.fixAt pre post)).foldl
    (Splice.step (.ofText (list.file pre post))) (.start (.ofText (list.file pre post)))

lemma sweep_eq (i : Fin list.slots.length) : list.sweep pre post indices i
    = if i ∈ indices then
        Splice.step (.ofText (list.file pre post)) (list.sweep pre post indices (i + 1))
          (list.fixAt pre post i)
      else list.sweep pre post indices (i + 1) := by
  rw [sweep, falling_eq, List.map_append, List.foldl_append, ← sweep]
  split <;> rfl

lemma sweep_end : list.sweep pre post indices list.slots.length
    = .start (.ofText (list.file pre post)) := by
  rw [sweep, falling_end]
  rfl

/-- **What holds after the fixes from an index on.**  Up to that argument the text is the old one,
and nothing that is left to do reaches beyond it. -/
structure Swept (i : Fin list.slots.length) (w : Splice) : Prop where
  content : ∃ t, w.content = list.front pre i ++ t ++ ')' :: post ∧
    splitArguments t = (survivors indices i).map fun k => (list.slot k).argument
  limit : ∀ limit, w.limit = some limit → (list.front pre i).length ≤ limit
  applied : w.applied
    = ((falling indices i).filter (¬ Spared indices ·)).map (list.fixAt pre post)
  skipped : w.skipped
    = ((falling indices i).filter (Spared indices ·)).map (list.fixAt pre post)

variable {list indices} {i j : Fin list.slots.length} {w : Splice}

/-- **One argument further to the front.** -/
lemma Swept.step (h : list.OneLine) (hj : (j : Nat) = i + 1) (hspared : ¬ Spared indices i)
    (hw : list.Swept pre post indices j w) : list.Swept pre post indices i
      (if i ∈ indices then Splice.step (.ofText (list.file pre post)) w (list.fixAt pre post i)
        else w) := by
  obtain ⟨t, hcontent, hsplit⟩ := hw.content
  have hfront := front_succ pre hj
  have hfalling := falling_eq indices i
  have hsurvivors := survivors_eq indices i
  rw [← hj] at hfalling hsurvivors
  split
  · next hmem =>
    rw [if_pos hmem] at hfalling
    rw [if_neg (by simp [hmem, hspared])] at hsurvivors
    obtain ⟨hstart, hstop⟩ := h.ends_inner pre post hj
    rcases Splice.step_cases (.ofText (list.file pre post)) w (list.fixAt pre post i) with
      ⟨limit, hlimit, hlt, -⟩ | ⟨-, hstep⟩
    · have hle := hw.limit limit hlimit
      omega
    · rw [hstep, hstart, hstop]
      refine ⟨⟨t, ?_, by rw [hsurvivors, hsplit]⟩, ?_, ?_, ?_⟩
      · have hprefix : list.front pre i <+: w.content := by
          rw [hcontent, hfront, List.append_assoc, List.append_assoc]
          exact List.prefix_append _ _
        rw [List.append_assoc] at hcontent
        exact (Text.take_append_drop_of_prefix hprefix hcontent).trans
          (List.append_assoc _ t _).symm
      · intro limit hlimit
        cases hlimit
        exact Nat.le_refl _
      · rw [hfalling, List.filter_append, List.map_append]
        simp [hw.applied, hspared]
      · rw [hfalling, List.filter_append, List.map_append]
        simp [hw.skipped, hspared]
  · next hmem =>
    rw [if_neg hmem, List.append_nil] at hfalling
    rw [if_pos (.inl hmem)] at hsurvivors
    refine ⟨⟨(list.slot i).argument ++ (list.slot i).after ++ ',' :: ((list.slot j).before ++ t),
      ?_, ?_⟩, ?_, by rw [hfalling, hw.applied], by rw [hfalling, hw.skipped]⟩
    · rw [hcontent, hfront]
      simp
    · have hargs := (list.slot i).splitArguments_around_comma (g := []) (by simp)
        (list.slot i).blank_after ((list.slot j).before ++ t)
      rw [splitArguments_blank_append (list.slot j).blank_before, hsplit, List.nil_append] at hargs
      rw [hargs, hsurvivors, List.map_cons]
    · intro limit hlimit
      have hle := hw.limit limit hlimit
      rw [hfront, List.length_append] at hle
      omega

/-- The last argument stays. -/
lemma swept_of_not_mem (h : list.OneLine) (hlast : (i : Nat) + 1 = list.slots.length)
    (hmem : i ∉ indices) :
    list.Swept pre post indices i (.start (.ofText (list.file pre post))) := by
  have hfalling := falling_eq indices i
  have hsurvivors := survivors_eq indices i
  rw [hlast, falling_end, if_neg hmem, List.append_nil] at hfalling
  rw [hlast, survivors_end, if_pos (.inl hmem)] at hsurvivors
  refine ⟨⟨(list.slot i).argument ++ (list.slot i).after, ?_, ?_⟩, nofun,
    by rw [hfalling]; rfl, by rw [hfalling]; rfl⟩
  · rw [Splice.start, Snapshot.ofText, list.file_eq pre post i, h.behind_last hlast]
    simp
  · have hargs := (list.slot i).splitArguments_around (g := []) (by simp) (list.slot i).blank_after
    rw [List.nil_append] at hargs
    rw [hargs, hsurvivors]
    rfl

/-- The only argument goes. -/
lemma swept_only (h : list.OneLine) (hi : (i : Nat) = 0)
    (hlast : (i : Nat) + 1 = list.slots.length) (hmem : i ∈ indices) :
    list.Swept pre post indices i (Splice.step (.ofText (list.file pre post))
      (.start (.ofText (list.file pre post))) (list.fixAt pre post i)) := by
  have hspared : ¬ Spared indices i := fun hspared => by
    have hsecond := hspared.1
    omega
  have hfalling := falling_eq indices i
  have hsurvivors := survivors_eq indices i
  rw [hlast, falling_end, if_pos hmem] at hfalling
  rw [hlast, survivors_end, if_neg (by simp [hmem, hspared])] at hsurvivors
  obtain ⟨hstart, hstop⟩ := h.ends_only pre post hi hlast
  have hfile := list.file_eq pre post i
  rw [Splice.step_start, hstart, hstop]
  refine ⟨⟨(list.slot i).after, ?_, ?_⟩, ?_, by rw [hfalling]; simp [hspared],
    by rw [hfalling]; simp [hspared]⟩
  · rw [h.behind_last hlast, List.append_nil] at hfile
    exact (Text.take_append_drop_of_prefix (front_prefix_file pre post i) hfile).trans
      (List.append_assoc _ (list.slot i).after _).symm
  · rw [splitArguments_blank (list.slot i).blank_after, hsurvivors, List.map_nil]
  · intro limit hlimit
    cases hlimit
    exact Nat.le_refl _

/-- A fix whose comma has gone already is skipped. -/
lemma step_skips (h : list.OneLine) (hj : (j : Nat) = i + 1) {limit : Nat}
    (hlimit : w.limit = some limit) (hlt : limit < (list.front pre j).length) :
    (if i ∈ indices then Splice.step (.ofText (list.file pre post)) w (list.fixAt pre post i)
      else w)
    = { w with skipped := w.skipped ++ if i ∈ indices then [list.fixAt pre post i] else [] } := by
  obtain ⟨-, hstop⟩ := h.ends_inner pre post hj
  split
  · rcases Splice.step_cases (.ofText (list.file pre post)) w (list.fixAt pre post i) with
      ⟨-, -, -, hstep⟩ | ⟨hfits, -⟩
    · exact hstep
    · have hle := hfits limit hlimit
      omega
  · rw [List.append_nil]

/-- The last of several arguments goes. -/
lemma swept_last (h : list.OneLine) (hj : (j : Nat) = i + 1)
    (hlast : (j : Nat) + 1 = list.slots.length) (hmem : j ∈ indices) :
    list.Swept pre post indices i (
      let w := Splice.step (.ofText (list.file pre post)) (.start (.ofText (list.file pre post)))
        (list.fixAt pre post j)
      if i ∈ indices then Splice.step (.ofText (list.file pre post)) w (list.fixAt pre post i)
      else w) := by
  have hspared : Spared indices i := ⟨by omega, j, hmem, hlast⟩
  have hspared' : ¬ Spared indices j := fun hspared => by
    have hsecond := hspared.1
    omega
  have hfalling : falling indices i = j :: if i ∈ indices then [i] else [] := by
    rw [falling_eq, ← hj, falling_eq, hlast, falling_end, if_pos hmem]
    rfl
  have hsurvivors : survivors indices i = [i] := by
    rw [survivors_eq, if_pos (.inr hspared), ← hj, survivors_eq, if_neg (by simp [hmem, hspared']),
      hlast, survivors_end]
  obtain ⟨hstart, hstop⟩ := h.ends_last pre post hj hlast
  have hlimit : (list.front pre i ++ (list.slot i).argument ++ (list.slot i).after).length
      < (list.front pre j).length := by
    rw [front_succ pre hj]
    simp only [List.length_append, List.length_cons]
    omega
  simp only [Splice.step_start, hstart, hstop]
  rw [step_skips pre post h hj rfl hlimit]
  refine ⟨⟨(list.slot i).argument ++ ((list.slot i).after ++ (list.slot j).after), ?_, ?_⟩,
    ?_, ?_, ?_⟩
  · have hfile := list.file_eq pre post j
    rw [h.behind_last hlast, List.append_nil] at hfile
    have hprefix := prefix_file pre post i List.prefix_rfl
    rw [← List.append_assoc] at hprefix
    refine (Text.take_append_drop_of_prefix hprefix hfile).trans ?_
    simp
  · have hblank : ∀ c ∈ (list.slot i).after ++ (list.slot j).after, isBlank c := fun c hc =>
      (List.mem_append.mp hc).elim ((list.slot i).blank_after c) ((list.slot j).blank_after c)
    have hargs := (list.slot i).splitArguments_around (g := []) (by simp) hblank
    rw [List.nil_append] at hargs
    rw [hargs, hsurvivors]
    rfl
  · intro limit hlim
    cases hlim
    rw [List.append_assoc, List.length_append]
    omega
  · rw [hfalling]
    split <;> simp [hspared, hspared']
  · rw [hfalling]
    split <;> simp [hspared, hspared']

/-- **All the way to the front.** -/
lemma Swept.down (h : list.OneLine)
    (hj : list.Swept pre post indices j (list.sweep pre post indices j))
    (hspared : ∀ i < j, ¬ Spared indices i) : ∀ (d : Nat) (i : Fin list.slots.length),
      (i : Nat) + d = j → list.Swept pre post indices i (list.sweep pre post indices i)
  | 0, i, hi => by
      obtain rfl : i = j := Fin.ext hi
      exact hj
  | d + 1, i, hi => by
      have hnext : (i : Nat) + 1 < list.slots.length := by omega
      have ih := Swept.down h hj hspared d ⟨i + 1, hnext⟩ (by simp only; omega)
      rw [sweep_eq]
      exact ih.step pre post h rfl (hspared i (by rw [Fin.lt_def]; omega))

/-- **The whole sweep.** -/
lemma swept_all (h : list.OneLine) (hi : (i : Nat) = 0) :
    list.Swept pre post indices i (list.sweep pre post indices i) := by
  obtain ⟨j, hlast⟩ : ∃ j : Fin list.slots.length, (j : Nat) + 1 = list.slots.length :=
    ⟨⟨list.slots.length - 1, by omega⟩, by simp only; omega⟩
  have hsweep := list.sweep_eq pre post indices j
  rw [hlast, sweep_end] at hsweep
  by_cases hmem : j ∈ indices
  · rw [if_pos hmem] at hsweep
    rcases Nat.eq_zero_or_pos (j : Nat) with hzero | hpos
    · obtain rfl : i = j := Fin.ext (hi.trans hzero.symm)
      rw [hsweep]
      exact swept_only pre post h hi hlast hmem
    · obtain ⟨k, hk⟩ : ∃ k : Fin list.slots.length, (j : Nat) = k + 1 :=
        ⟨⟨j - 1, by omega⟩, by simp only; omega⟩
      have hswept : list.Swept pre post indices k (list.sweep pre post indices k) := by
        rw [sweep_eq, ← hk, hsweep]
        exact swept_last pre post h hk hlast hmem
      refine hswept.down pre post h (fun l hl hspared => ?_) k i (by omega)
      have hsecond := hspared.1
      have hl' : (l : Nat) < k := hl
      omega
  · rw [if_neg hmem] at hsweep
    have hswept := swept_of_not_mem pre post h hlast hmem
    rw [← hsweep] at hswept
    refine hswept.down pre post h (fun l _ hspared => ?_) j i (by omega)
    obtain ⟨-, k, hk, hklast⟩ := hspared
    obtain rfl : k = j := Fin.ext (by omega)
    exact hmem hk

end ArgumentList

/-! ## The batch -/

lemma Registry.synthesize_redundant (s : Snapshot) {ds : List Diagnostic}
    (hcode : ∀ d ∈ ds, d.code = ("M0237" : Text)) : Registry.standard.synthesize ds s
      = ds.map fun d => .ofEdit (.deletion (Rule.argumentRange s d.range)) "M0237" := by
  have hrule : Registry.standard.rule? "M0237" = some .implicitArgument := rfl
  rw [synthesize, ← List.filterMap_eq_map]
  refine List.filterMap_congr fun d hd => ?_
  rw [hcode d hd, hrule]
  rfl

/-- **Any set of redundant arguments.**  All of them go, except that the last but one stays if the
last one goes as well.  The call has the other arguments afterwards, in their order. -/
theorem applyFixes_redundant_arguments (list : ArgumentList) (h : list.OneLine) (pre post : Text)
    (indices : List (Fin list.slots.length)) (hne : indices ≠ []) (hnodup : indices.Nodup)
    (diag : Fin list.slots.length → Diagnostic)
    (hcode : ∀ i ∈ indices, (diag i).code = ("M0237" : Text))
    (hrange : ∀ i ∈ indices, (diag i).range = list.rangeAt pre i) :
    let s : Snapshot := .ofText (list.file pre post)
    let fixes := fun is : List (Fin list.slots.length) =>
      Registry.standard.synthesize (is.map diag) s
    let r := applyFixes s (fixes indices)
    r.applied.Perm (fixes (indices.filter (¬ Spared indices ·))) ∧
      r.skipped.Perm (fixes (indices.filter (Spared indices ·))) ∧
      ∃ body, r.content = pre ++ '(' :: body ++ ')' :: post ∧
        splitArguments body = ((List.finRange list.slots.length).filter
          fun i => i ∉ indices ∨ Spared indices i).map fun i => (list.slot i).argument := by
  intro s fixes r
  have hfixes : ∀ is : List (Fin list.slots.length), is ⊆ indices →
      fixes is = is.map (list.fixAt pre post) := by
    intro is his
    have hcode' : ∀ d ∈ is.map diag, d.code = ("M0237" : Text) := by
      intro d hd
      obtain ⟨i, hi, rfl⟩ := List.mem_map.mp hd
      exact hcode i (his hi)
    simp only [fixes, Registry.synthesize_redundant s hcode', List.map_map]
    refine List.map_congr_left fun i hi => ?_
    rw [Function.comp_apply, hrange i (his hi)]
    rfl
  have hperm := perm_falling indices hnodup
  have hsort : Fix.sort (fixes indices) = (falling indices 0).map (list.fixAt pre post) := by
    refine Fix.sort_eq_of_perm ?_ (List.pairwise_map.mpr ?_)
    · rw [hfixes indices (List.Subset.refl _)]
      exact hperm.map _
    · exact (pairwise_falling indices).imp fun hlt => h.not_start_le pre post hlt
  have hr : r = (list.sweep pre post indices 0).toApplied := by
    simp only [r, applyFixes, hsort]
    rfl
  obtain ⟨i, hi⟩ : ∃ i : Fin list.slots.length, (i : Nat) = 0 := by
    obtain ⟨k, -⟩ := List.exists_mem_of_ne_nil _ hne
    exact ⟨⟨0, k.pos⟩, rfl⟩
  have hswept : list.Swept pre post indices i _ := ArgumentList.swept_all pre post h hi
  rw [hi] at hswept
  rw [hr, hfixes _ List.filter_sublist.subset, hfixes _ List.filter_sublist.subset,
    hswept.applied, hswept.skipped, hi]
  refine ⟨((hperm.filter _).map _).symm, ((hperm.filter _).map _).symm, ?_⟩
  obtain ⟨t, hcontent, hsplit⟩ := hswept.content
  have hfront : list.front pre i = pre ++ '(' :: (list.slot i).before := by
    simp [ArgumentList.front, hi, lead]
  refine ⟨(list.slot i).before ++ t, by rw [hcontent, hfront]; simp, ?_⟩
  rw [splitArguments_blank_append (list.slot i).blank_before, hsplit, hi]
  rfl

/-- Four arguments on one line, with commas in a literal and in brackets. -/
def fourArguments : ArgumentList where
  slots := [
    { before := "", argument := "x", after := "" },
    { before := " ", argument := "'😀,'", after := "\t" },
    { before := " ", argument := "g(y, z)", after := "" },
    { before := "", argument := "w", after := " " }]

theorem applyFixes_redundant_arguments_four :
    let indices : List (Fin 4) := [2, 0, 3]
    let diag : Fin 4 → Diagnostic := fun i =>
      ⟨"A.mo", fourArguments.rangeAt "h" i, "M0237", "redundant", .warning⟩
    let s : Snapshot := .ofText (fourArguments.file "h" "\r\n")
    let fixes := fun is : List (Fin 4) => Registry.standard.synthesize (is.map diag) s
    let r := applyFixes s (fixes indices)
    s.text = "h(x, '😀,'\t, g(y, z),w )\r\n".toList ∧
      r.applied.Perm (fixes [0, 3]) ∧ r.skipped.Perm (fixes [2]) ∧
      ∃ body, r.content = "h".toList ++ '(' :: body ++ ')' :: "\r\n".toList ∧
        splitArguments body = ["'😀,'".toList, "g(y, z)".toList] := by
  intro indices diag s fixes r
  have happlied : indices.filter (¬ Spared indices ·) = [0, 3] := by decide
  have hskipped : indices.filter (Spared indices ·) = [2] := by decide
  have hne : indices ≠ [] := by decide
  have hnodup : indices.Nodup := by decide
  have hbatch := applyFixes_redundant_arguments fourArguments ⟨rfl, by decide⟩ "h" "\r\n" indices
    hne hnodup diag (fun _ _ => rfl) (fun _ _ => rfl)
  refine ⟨by decide, ?_⟩
  rw [← happlied, ← hskipped]
  exact hbatch

end Amend
