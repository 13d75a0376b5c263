import Amend.Proofs.PassOrder
import Mathlib.Data.List.Dedup

/-!
# Fixes that are given twice

A compiler may report a diagnostic twice, and then its fix stands twice in the batch.  The outcome
of a batch depends only on which fixes are in it.

**One step.**  A second copy of a fix comes right behind the first, since the batch is sorted and
different fixes start at different positions.  It is always skipped: if the first copy was applied,
the second reaches beyond its start, which is the limit now; if the first was skipped, the limit has
not moved since (`Splice.step_again`).

**The whole batch.**  `Splice.Agree` relates two states of the work that differ in their skipped
fixes only.  Every further step keeps it, so a sorted batch and the same batch without its copies
end in states that agree (`Splice.agree_dedup`).
-/

namespace Amend

namespace Splice

/-- Two states of the work that differ in their skipped fixes at most. -/
structure Agree (w w' : Splice) : Prop where
  content_eq : w.content = w'.content
  applied_eq : w.applied = w'.applied
  limit_eq : w.limit = w'.limit

variable {s : Snapshot} {w w' : Splice}

lemma Agree.refl (w : Splice) : Agree w w := ⟨rfl, rfl, rfl⟩

lemma Agree.trans {w'' : Splice} (h : Agree w w') (h' : Agree w' w'') : Agree w w'' where
  content_eq := h.content_eq.trans h'.content_eq
  applied_eq := h.applied_eq.trans h'.applied_eq
  limit_eq := h.limit_eq.trans h'.limit_eq

/-- Skipping a fix is not seen. -/
lemma agree_skipped (w : Splice) (skipped : List Fix) : Agree { w with skipped } w :=
  ⟨rfl, rfl, rfl⟩

/-- **One step.**  Whether a fix is applied does not depend on what was skipped before. -/
lemma Agree.step (h : Agree w w') (f : Fix) : Agree (step s w f) (step s w' f) := by
  rcases step_cases s w f with ⟨limit, hlimit, hlt, hstep⟩ | ⟨hfits, hstep⟩
  · rcases step_cases s w' f with ⟨_, _, _, hstep'⟩ | ⟨hfits', _⟩
    · rw [hstep, hstep']
      exact ⟨h.content_eq, h.applied_eq, h.limit_eq⟩
    · have hle := hfits' limit (h.limit_eq ▸ hlimit)
      omega
  · rcases step_cases s w' f with ⟨limit, hlimit, hlt, _⟩ | ⟨_, hstep'⟩
    · have hle := hfits limit (h.limit_eq ▸ hlimit)
      omega
    · rw [hstep, hstep']
      exact ⟨by rw [h.content_eq], by rw [h.applied_eq], rfl⟩

/-- **All steps.** -/
lemma Agree.run (h : Agree w w') (fixes : List Fix) :
    Agree (fixes.foldl (Splice.step s) w) (fixes.foldl (Splice.step s) w') := by
  induction fixes generalizing w w' with
  | nil => exact h
  | cons f fixes ih => exact ih (h.step f)

/-- **A second copy is skipped**, whatever became of the first. -/
lemma step_again {f : Fix} (hf : f.startIn s < f.stopIn s) (w : Splice) :
    Agree (step s (step s w f) f) (step s w f) := by
  have hskips : ∀ limit, (step s w f).limit = some limit → limit < f.stopIn s →
      Agree (step s (step s w f) f) (step s w f) := by
    intro limit hlimit hlt
    rcases step_cases s (step s w f) f with ⟨_, _, _, hagain⟩ | ⟨hfits, _⟩
    · rw [hagain]
      exact agree_skipped _ _
    · have hle := hfits limit hlimit
      omega
  rcases step_cases s w f with ⟨limit, hlimit, hlt, hstep⟩ | ⟨_, hstep⟩
  · exact hskips limit (by rw [hstep, hlimit]) hlt
  · exact hskips (f.startIn s) (by rw [hstep]) hf

end Splice

namespace Fix

variable {fixes fixes' : List Fix}

lemma StartApart.subset (h : StartApart fixes) (hsub : fixes' ⊆ fixes) : StartApart fixes' :=
  fun f hf g hg => h f (hsub hf) g (hsub hg)

/-- In a sorted batch, a copy of the first fix comes right behind it. -/
lemma exists_copy_behind {f : Fix} (hapart : StartApart (f :: fixes))
    (hsorted : (f :: fixes).Pairwise fun f g => startsNoEarlier f g) (hf : f ∈ fixes) :
    ∃ rest, fixes = f :: rest := by
  obtain ⟨g, rest, rfl⟩ := List.exists_cons_of_ne_nil (List.ne_nil_of_mem hf)
  obtain ⟨hfirst, hrest⟩ := List.pairwise_cons.mp hsorted
  have hfg := hfirst g List.mem_cons_self
  rcases List.mem_cons.mp hf with rfl | hmem
  · exact ⟨rest, rfl⟩
  · -- The next fix starts no later than `f`, and no earlier than the copy of `f` behind it.
    have hgf := (List.pairwise_cons.mp hrest).1 f hmem
    have heq : f = g := hapart.eq_of_startsNoEarlier List.mem_cons_self (by simp) hfg hgf
    exact ⟨rest, by rw [heq]⟩

end Fix

namespace Splice

/-- **A sorted batch does what it does without its copies.** -/
lemma agree_dedup {s : Snapshot} {fixes : List Fix} (hapart : Fix.StartApart fixes)
    (hsorted : fixes.Pairwise fun f g => Fix.startsNoEarlier f g)
    (hfull : ∀ f ∈ fixes, f.startIn s < f.stopIn s) (w : Splice) :
    Agree (fixes.foldl (step s) w) (fixes.dedup.foldl (step s) w) := by
  induction fixes generalizing w with
  | nil => exact .refl w
  | cons f fixes ih =>
      have hrest := ih (hapart.subset (List.subset_cons_self f fixes))
        (List.pairwise_cons.mp hsorted).2 (List.forall_mem_cons.mp hfull).2
      by_cases hf : f ∈ fixes
      · obtain ⟨rest, rfl⟩ := Fix.exists_copy_behind hapart hsorted hf
        have hcopy := (step_again (List.forall_mem_cons.mp hfull).1 w).run (s := s) rest
        rw [List.dedup_cons_of_mem hf]
        exact hcopy.trans (hrest w)
      · rw [List.dedup_cons_of_notMem hf]
        exact hrest (step s w f)

end Splice

/-- Copies may be dropped before sorting or behind it. -/
lemma Fix.sort_dedup {fixes : List Fix} (hapart : StartApart fixes) :
    sort fixes.dedup = (sort fixes).dedup := by
  have hperm : (sort fixes.dedup).Perm (sort fixes).dedup :=
    (perm_sort _).trans (perm_sort fixes).symm.dedup
  refine hperm.eq_of_pairwise (fun f g hf hg hfg hgf => ?_) (pairwise_sort _)
    ((pairwise_sort fixes).sublist (List.dedup_sublist _))
  have hf : f ∈ fixes := List.mem_dedup.mp (mem_sort.mp hf)
  have hg : g ∈ fixes := mem_sort.mp (List.mem_dedup.mp hg)
  exact hapart.eq_of_startsNoEarlier hf hg hfg hgf

section

variable {s : Snapshot} {fixes : List Fix} (hfull : ∀ f ∈ fixes, f.startIn s < f.stopIn s)

include hfull

lemma applyFixes_dedup (hapart : Fix.StartApart fixes) :
    (applyFixes s fixes).content = (applyFixes s fixes.dedup).content ∧
      (applyFixes s fixes).applied = (applyFixes s fixes.dedup).applied := by
  have hsorted : Fix.StartApart (Fix.sort fixes) := hapart.subset (Fix.perm_sort fixes).subset
  have hagree := Splice.agree_dedup hsorted (Fix.pairwise_sort fixes)
    (fun f hf => hfull f (Fix.mem_sort.mp hf)) (.start s)
  rw [← Fix.sort_dedup hapart] at hagree
  exact ⟨hagree.content_eq, hagree.applied_eq⟩

/-- No fix is applied twice: it would have to end before it starts. -/
lemma nodup_applied : (applyFixes s fixes).applied.Nodup := by
  have hle : ∀ f ∈ fixes, f.startIn s ≤ f.stopIn s := fun f hf => Nat.le_of_lt (hfull f hf)
  refine (reached_applyFixes s fixes hle).apart.imp_of_mem fun {f g} hf _ hstop heq => ?_
  have hlt := hfull f (mem_of_mem_applied hle hf)
  rw [← heq] at hstop
  omega

end

/-- **The outcome of a batch depends only on which fixes are in it**, not on their order and not on
how often each of them is given.  Each fix is applied, and so counted, at most once. -/
theorem applyFixes_of_same_members (s : Snapshot) (fixes fixes' : List Fix)
    (hmem : ∀ f, f ∈ fixes ↔ f ∈ fixes') (hapart : Fix.StartApart fixes)
    (hfull : ∀ f ∈ fixes, f.startIn s < f.stopIn s) :
    (applyFixes s fixes).content = (applyFixes s fixes').content ∧
      (applyFixes s fixes).applied = (applyFixes s fixes').applied ∧
      (applyFixes s fixes).applied.Nodup ∧
      ∀ counts, (applyFixes s fixes).countInto counts = (applyFixes s fixes').countInto counts := by
  have hapart' : Fix.StartApart fixes' := hapart.subset fun f hf => (hmem f).mpr hf
  have hfull' : ∀ f ∈ fixes', f.startIn s < f.stopIn s := fun f hf => hfull f ((hmem f).mpr hf)
  obtain ⟨hcontent, happlied⟩ := applyFixes_dedup hfull hapart
  obtain ⟨hcontent', happlied'⟩ := applyFixes_dedup hfull' hapart'
  have hperm : fixes.dedup.Perm fixes'.dedup := by
    rw [List.perm_ext_iff_of_nodup (List.nodup_dedup _) (List.nodup_dedup _)]
    simpa only [List.mem_dedup] using hmem
  have hsame := applyFixes_perm s hperm (hapart.subset (List.dedup_subset fixes))
  have happ : (applyFixes s fixes).applied = (applyFixes s fixes').applied := by
    rw [happlied, happlied', hsame]
  refine ⟨by rw [hcontent, hcontent', hsame], happ, nodup_applied hfull, fun counts => ?_⟩
  rw [Applied.countInto, Applied.countInto, happ]

/-- Three fixes, of which the first overlaps the second: it is skipped each time it is given. -/
theorem applyFixes_of_same_members_overlapping :
    let s : Snapshot := .ofText "abcdef"
    let f : Fix := { range := .ofCoords 0 0 0 2, newText := [], code := "M0223" }
    let g : Fix := { range := .ofCoords 0 1 0 3, newText := "X", code := "M0236" }
    let h : Fix := { range := .ofCoords 0 4 0 5, newText := "YY", code := "M0237" }
    Fix.StartApart [f, h, g, f, h] ∧ (∀ e ∈ [f, h, g, f, h], e.startIn s < e.stopIn s) ∧
      (applyFixes s [g, f, h]).content = "aXdYYf".toList ∧
      (applyFixes s [f, h, g, f, h]).content = (applyFixes s [g, f, h]).content ∧
      (applyFixes s [f, h, g, f, h]).applied = [h, g] := by
  intro s f g h
  have hapart : Fix.StartApart [f, h, g, f, h] := by decide
  have hfull : ∀ e ∈ [f, h, g, f, h], e.startIn s < e.stopIn s := by decide
  have hmem : ∀ e, e ∈ [f, h, g, f, h] ↔ e ∈ [g, f, h] := by
    intro e
    simp only [List.mem_cons, List.not_mem_nil, or_false]
    tauto
  obtain ⟨hcontent, happlied, -, -⟩ :=
    applyFixes_of_same_members s [f, h, g, f, h] [g, f, h] hmem hapart hfull
  exact ⟨hapart, hfull, by decide, hcontent, happlied.trans (by decide)⟩

end Amend
