import Amend.Proofs.Sorting

/-!
# A batch of fixes is one replacement

`applyFixes` cuts and joins a text that it has already changed, with indices that belong to the text
from before.  What it computes can be said without any order of work: the applied fixes stand apart
from each other, and all of them take effect at once.

**What is computed.**  `Text.replaceParts` puts new texts in place of parts of a text.  Every index
it is given belongs to the one old text, and between two parts the old text is copied.

**Why the loop computes it.**  `Splice.Reached` is what holds after some of the fixes: the content is
the replacement for the fixes applied so far, and none of them starts below the limit.  A fix that
ends at or below the limit therefore lies in the part that has only been copied
(`Text.replaceParts_insert`), so one more step is one more part (`Splice.Reached.step`).

**Which fixes are applied.**  `marked` selects from a list by marks, one for each member.  The
applied fixes are the marked ones, in order, the skipped ones are the others, and a skipped one
reaches beyond the start of one that was marked before it.
-/

namespace Amend

/-! ## Selecting by marks -/

/-- The members of a list that have the mark `true` at their place. -/
def marked {α : Type} (marks : List Bool) (l : List α) : List α :=
  ((l.zip marks).filter fun e => e.2).map fun e => e.1

section

variable {α : Type}

lemma marked_concat {marks : List Bool} {l : List α} (h : marks.length = l.length) (b : Bool)
    (a : α) : marked (marks ++ [b]) (l ++ [a]) = marked marks l ++ if b then [a] else [] := by
  rw [marked, List.zip_append h.symm, List.filter_append, List.map_append, marked]
  cases b <;> simp

/-- A selected member stands somewhere in the list, with a mark. -/
lemma exists_of_mem_marked {marks : List Bool} {l : List α} {a : α} (h : a ∈ marked marks l) :
    ∃ j : Nat, l[j]? = some a ∧ marks[j]? = some true := by
  simp only [marked, List.mem_map, List.mem_filter] at h
  obtain ⟨⟨a', b⟩, ⟨hmem, hb⟩, rfl⟩ := h
  obtain ⟨j, hj⟩ := List.mem_iff_getElem?.mp hmem
  rw [List.getElem?_zip_eq_some] at hj
  exact ⟨j, hj.1, by rw [hj.2]; exact congrArg some hb⟩

lemma mem_of_mem_marked {marks : List Bool} {l : List α} {a : α} (h : a ∈ marked marks l) :
    a ∈ l := by
  obtain ⟨j, hj, _⟩ := exists_of_mem_marked h
  exact List.mem_of_getElem? hj

end

/-! ## Replacing parts of a text -/

/-- A part of a text, by the indices of its ends, and the text that takes its place. -/
structure Part where
  start : Nat
  stop : Nat
  newText : Text
  deriving DecidableEq, Repr

namespace Text

/-- The text from the index `done` on, with parts replaced.  The parts are given from left to right,
and all indices are those of `t`. -/
def replaceParts (t : Text) : (done : Nat) → List Part → Text
  | done, [] => t.drop done
  | done, p :: ps => t.slice done p.start ++ p.newText ++ t.replaceParts p.stop ps

/-- Up to the start of the first part, the old text is copied. -/
lemma replaceParts_eq_slice_append (t : Text) {i j : Nat} (hij : i ≤ j) :
    ∀ ps : List Part, (∀ p ∈ ps, j ≤ p.start) →
      t.replaceParts i ps = t.slice i j ++ t.replaceParts j ps
  | [], _ => (slice_append_drop t hij).symm
  | p :: ps, h => by
      have hp : j ≤ p.start := h p List.mem_cons_self
      simp only [replaceParts]
      rw [← slice_append_slice t hij hp]
      simp only [List.append_assoc]

/-- **One more part.**  To replace a part to the left of all others, one may cut the text in which
the others have been replaced already: that far it is still the old one. -/
lemma replaceParts_insert (t : Text) (q : Part) (hq : q.start ≤ q.stop) (hlen : q.stop ≤ t.length)
    (ps : List Part) (h : ∀ p ∈ ps, q.stop ≤ p.start) :
    (t.replaceParts 0 ps).take q.start ++ q.newText ++ (t.replaceParts 0 ps).drop q.stop
      = t.replaceParts 0 (q :: ps) := by
  have hcopy : t.replaceParts 0 ps = t.take q.stop ++ t.replaceParts q.stop ps :=
    replaceParts_eq_slice_append t (Nat.zero_le _) ps h
  have hlength : (t.take q.stop).length = q.stop := by rw [List.length_take]; omega
  have htake : (t.replaceParts 0 ps).take q.start = t.take q.start := by
    rw [hcopy, List.take_append_of_le_length (by omega), List.take_take, Nat.min_eq_left hq]
  have hdrop : (t.replaceParts 0 ps).drop q.stop = t.replaceParts q.stop ps := by
    rw [hcopy, List.drop_append_of_le_length (by omega), List.drop_eq_nil_of_le (by omega),
      List.nil_append]
  rw [htake, hdrop]
  rfl

/-- **Nothing else changes.**  Parts that are replaced by their own text leave the text as it was:
what is replaced and what is copied make up the whole of it. -/
lemma replaceParts_own (t : Text) : ∀ (done : Nat) (ps : List Part),
    (∀ p ∈ ps, done ≤ p.start ∧ p.start ≤ p.stop) → ps.Pairwise (fun a b => a.stop ≤ b.start) →
      t.replaceParts done (ps.map fun p => { p with newText := t.slice p.start p.stop })
        = t.drop done
  | _, [], _, _ => rfl
  | done, p :: ps, h, hapart => by
      obtain ⟨hdone, hp⟩ := h p List.mem_cons_self
      obtain ⟨hfirst, hrest⟩ := List.pairwise_cons.mp hapart
      have hps : ∀ q ∈ ps, p.stop ≤ q.start ∧ q.start ≤ q.stop :=
        fun q hq => ⟨hfirst q hq, (h q (List.mem_cons_of_mem p hq)).2⟩
      simp only [List.map_cons, replaceParts]
      rw [replaceParts_own t p.stop ps hps hrest, List.append_assoc, slice_append_drop t hp,
        slice_append_drop t hdone]

end Text

/-! ## The state after some of the fixes -/

namespace Fix

/-- Where the range of a fix starts. -/
def startIn (s : Snapshot) (f : Fix) : Nat := s.offset f.range.start

/-- Where the range of a fix ends. -/
def stopIn (s : Snapshot) (f : Fix) : Nat := s.offset f.range.stop

/-- What a fix does to the text of a snapshot. -/
def part (s : Snapshot) (f : Fix) : Part := ⟨f.startIn s, f.stopIn s, f.newText⟩

end Fix

namespace Splice

/-- **What one step can do.**  It skips a fix that ends beyond the limit; any other fix is cut into
the content and its start becomes the limit. -/
lemma step_cases (s : Snapshot) (w : Splice) (f : Fix) :
    (∃ limit, w.limit = some limit ∧ limit < f.stopIn s ∧
        step s w f = { w with skipped := w.skipped ++ [f] }) ∨
      ((∀ limit, w.limit = some limit → f.stopIn s ≤ limit) ∧
        step s w f =
          { w with
            content := w.content.take (f.startIn s) ++ f.newText ++ w.content.drop (f.stopIn s)
            applied := w.applied ++ [f]
            limit := some (f.startIn s) }) := by
  cases hlimit : w.limit with
  | none => exact Or.inr ⟨by simp, by simp [step, overlaps, hlimit, Fix.startIn, Fix.stopIn]⟩
  | some limit =>
      by_cases hlt : limit < f.stopIn s
      · refine Or.inl ⟨limit, rfl, hlt, ?_⟩
        rw [Fix.stopIn] at hlt
        simp [step, overlaps, hlimit, hlt]
      · refine Or.inr ⟨fun l hl => ?_, ?_⟩
        · cases hl
          omega
        · rw [Fix.stopIn] at hlt
          simp [step, overlaps, hlimit, hlt, Fix.startIn, Fix.stopIn]

/-- The marks of the fixes seen so far: the applied fixes are the marked ones, the skipped ones the
others, and each of those reaches beyond the start of one that was marked before it. -/
structure Marked (s : Snapshot) (seen : List Fix) (r : Applied) (marks : List Bool) : Prop where
  length_eq : marks.length = seen.length
  applied_eq : r.applied = marked marks seen
  skipped_eq : r.skipped = marked (marks.map not) seen
  overlap : ∀ (i : Nat) (f : Fix), seen[i]? = some f → marks[i]? = some false →
    ∃ (j : Nat) (g : Fix), j < i ∧ seen[j]? = some g ∧ marks[j]? = some true ∧
      g.startIn s < f.stopIn s

/-- **What holds after some of the fixes.**  The content is the text with the parts of the applied
fixes replaced, these stand apart, and the limit is the lowest of their starts. -/
structure Reached (s : Snapshot) (seen : List Fix) (w : Splice) : Prop where
  content_eq : w.content = s.text.replaceParts 0 (w.applied.reverse.map (Fix.part s))
  apart : w.applied.Pairwise fun a b => b.stopIn s ≤ a.startIn s
  unlimited : w.limit = none → w.applied = []
  limited : ∀ limit, w.limit = some limit →
    (∀ f ∈ w.applied, limit ≤ f.startIn s) ∧ ∃ f ∈ w.applied, f.startIn s = limit
  marks : ∃ marks, Marked s seen w.toApplied marks

lemma reached_start (s : Snapshot) : Reached s [] (start s) where
  content_eq := by simp [start, Text.replaceParts]
  apart := List.Pairwise.nil
  unlimited := fun _ => rfl
  limited := by simp [start]
  marks := ⟨[], by simp, rfl, rfl, by simp⟩

/-- One more fix gets one more mark. -/
lemma Marked.concat {s : Snapshot} {seen : List Fix} {r r' : Applied} {marks : List Bool}
    (hm : Marked s seen r marks) (f : Fix) (b : Bool)
    (happlied : r'.applied = r.applied ++ if b then [f] else [])
    (hskipped : r'.skipped = r.skipped ++ if b then [] else [f])
    (hover : b = false → ∃ g ∈ r.applied, g.startIn s < f.stopIn s) :
    Marked s (seen ++ [f]) r' (marks ++ [b]) where
  length_eq := by simp [hm.length_eq]
  applied_eq := by rw [happlied, hm.applied_eq, marked_concat hm.length_eq]
  skipped_eq := by
    rw [hskipped, hm.skipped_eq, List.map_append, List.map_singleton,
      marked_concat (by rw [List.length_map, hm.length_eq])]
    cases b <;> rfl
  overlap := by
    intro i f' hf' hmark
    have hlen := hm.length_eq
    rcases Nat.lt_trichotomy i seen.length with hi | hi | hi
    · -- A fix from before: it overlaps what it overlapped then.
      rw [List.getElem?_append_left hi] at hf'
      rw [List.getElem?_append_left (by omega)] at hmark
      obtain ⟨j, g, hj, hg, hgm, hlt⟩ := hm.overlap i f' hf' hmark
      refine ⟨j, g, hj, ?_, ?_, hlt⟩
      · rw [List.getElem?_append_left (by omega), hg]
      · rw [List.getElem?_append_left (by omega), hgm]
    · -- The new one: the fix that it overlaps is among the marked ones.
      subst hi
      rw [List.getElem?_concat_length] at hf'
      rw [← hlen, List.getElem?_concat_length] at hmark
      cases hf'
      cases hmark
      obtain ⟨g, hg, hlt⟩ := hover rfl
      rw [hm.applied_eq] at hg
      obtain ⟨j, hj, hjm⟩ := exists_of_mem_marked hg
      have hjlt : j < seen.length := (List.getElem?_eq_some_iff.mp hj).1
      refine ⟨j, g, hjlt, ?_, ?_, hlt⟩
      · rw [List.getElem?_append_left hjlt, hj]
      · rw [List.getElem?_append_left (by omega), hjm]
    · rw [List.getElem?_eq_none (by simp; omega)] at hf'
      cases hf'

/-- **One step.**  Whether the fix is applied or skipped, the content is again the replacement for
the fixes applied so far. -/
lemma Reached.step {s : Snapshot} {seen : List Fix} {w : Splice} (h : Reached s seen w) (f : Fix)
    (hf : f.startIn s ≤ f.stopIn s) : Reached s (seen ++ [f]) (Splice.step s w f) := by
  obtain ⟨marks, hmarks⟩ := h.marks
  rcases step_cases s w f with ⟨limit, hlimit, hlt, hstep⟩ | ⟨hfits, hstep⟩
  · obtain ⟨-, g, hg, hstart⟩ := h.limited limit hlimit
    rw [hstep]
    exact
      { content_eq := h.content_eq
        apart := h.apart
        unlimited := h.unlimited
        limited := h.limited
        marks := ⟨marks ++ [false], hmarks.concat f false (by simp) (by simp)
          fun _ => ⟨g, hg, by omega⟩⟩ }
  · -- Every applied fix starts at the limit or after it, so the new one ends before it.
    have hbelow : ∀ g ∈ w.applied, f.stopIn s ≤ g.startIn s := by
      intro g hg
      cases hlimit : w.limit with
      | none =>
          rw [h.unlimited hlimit] at hg
          exact absurd hg List.not_mem_nil
      | some limit => exact Nat.le_trans (hfits limit hlimit) ((h.limited limit hlimit).1 g hg)
    have hparts : ∀ p ∈ w.applied.reverse.map (Fix.part s), f.stopIn s ≤ p.start := by
      intro p hp
      obtain ⟨g, hg, rfl⟩ := List.mem_map.mp hp
      exact hbelow g (List.mem_reverse.mp hg)
    rw [hstep]
    refine
      { content_eq := ?_
        apart := ?_
        unlimited := by simp
        limited := ?_
        marks := ⟨marks ++ [true], hmarks.concat f true (by simp) (by simp) (by simp)⟩ }
    · simp only [List.reverse_append, List.reverse_singleton, List.singleton_append, List.map_cons]
      rw [h.content_eq]
      exact Text.replaceParts_insert s.text (f.part s) hf (s.offset_le_length _) _ hparts
    · refine List.pairwise_append.mpr ⟨h.apart, List.pairwise_singleton _ _, ?_⟩
      intro g hg f' hf'
      rw [List.mem_singleton.mp hf']
      exact hbelow g hg
    · intro limit hlimit
      cases hlimit
      refine ⟨fun g hg => ?_, f, by simp, rfl⟩
      rcases List.mem_append.mp hg with hg | hg
      · exact Nat.le_trans hf (hbelow g hg)
      · obtain rfl := List.mem_singleton.mp hg
        exact Nat.le_refl _

/-- **All steps.** -/
lemma Reached.run {s : Snapshot} : ∀ {fixes seen : List Fix} {w : Splice}, Reached s seen w →
    (∀ f ∈ fixes, f.startIn s ≤ f.stopIn s) →
      Reached s (seen ++ fixes) (fixes.foldl (Splice.step s) w)
  | [], seen, w, h, _ => by simpa using h
  | f :: fixes, seen, w, h, hfixes => by
      have hstep := h.step f (hfixes f List.mem_cons_self)
      have hrest := Reached.run hstep fun g hg => hfixes g (List.mem_cons_of_mem f hg)
      rwa [List.append_assoc, List.singleton_append] at hrest

end Splice

/-! ## The whole batch -/

/-- The fixes of a batch that `applyFixes` applies and skips, and the content that it gives. -/
lemma reached_applyFixes (s : Snapshot) (fixes : List Fix)
    (h : ∀ f ∈ fixes, f.startIn s ≤ f.stopIn s) :
    Splice.Reached s (Fix.sort fixes) ((Fix.sort fixes).foldl (Splice.step s) (.start s)) := by
  have hsorted : ∀ f ∈ Fix.sort fixes, f.startIn s ≤ f.stopIn s :=
    fun f hf => h f (Fix.mem_sort.mp hf)
  exact (Splice.reached_start s).run hsorted

lemma mem_of_mem_applied {s : Snapshot} {fixes : List Fix}
    (h : ∀ f ∈ fixes, f.startIn s ≤ f.stopIn s) {f : Fix}
    (hf : f ∈ (applyFixes s fixes).applied) : f ∈ fixes := by
  obtain ⟨marks, hmarks⟩ := (reached_applyFixes s fixes h).marks
  have hmem : f ∈ Fix.sort fixes := mem_of_mem_marked (hmarks.applied_eq ▸ hf)
  exact Fix.mem_sort.mp hmem

namespace Counts

/-- A code that does not stand in the list keeps its entry, or its lack of one. -/
lemma get?_tally_of_not_mem (x : Text) : ∀ (codes : List Text) (counts : Counts), x ∉ codes →
    (counts.tally codes).get? x = counts.get? x
  | [], _, _ => rfl
  | code :: codes, counts, h => by
      obtain ⟨hx, hrest⟩ := not_or.mp fun hor => h (List.mem_cons.mpr hor)
      have ih := get?_tally_of_not_mem x codes (counts.add code 1) hrest
      rw [tally] at ih
      rw [tally, List.foldl_cons, ih, add, Table.get?_insert, if_neg hx]

end Counts

/-- The number of fixes with a code is the number of times that it is counted. -/
lemma count_map_code (fixes : List Fix) (code : Text) :
    (fixes.map Fix.code).count code = fixes.countP fun f => f.code = code := by
  rw [List.count, List.countP_map]
  exact List.countP_congr fun f _ => by simp

namespace Applied

/-- **The outcome of a batch as one replacement.**  All indices are those of the snapshot from
before the batch. -/
structure IsReplacement (s : Snapshot) (fixes : List Fix) (r : Applied) : Prop where
  /-- The applied and the skipped fixes are complementary subsequences of the sorted batch, and a
  skipped fix ends beyond the start of one that was applied before it. -/
  marks : ∃ marks, Splice.Marked s (Fix.sort fixes) r marks
  /-- Of two applied fixes, the later one ends before the earlier one starts. -/
  apart : r.applied.Pairwise fun a b => b.stopIn s ≤ a.startIn s
  /-- The content is the old text with the part of each applied fix replaced. -/
  content_eq : r.content = s.text.replaceParts 0 (r.applied.reverse.map (Fix.part s))
  /-- Besides these parts, the whole text is kept: with the old text in their place, it is the
  old text. -/
  rest_kept : s.text.replaceParts 0 (r.applied.reverse.map fun f =>
    { f.part s with newText := s.text.slice (f.startIn s) (f.stopIn s) }) = s.text
  /-- A code is counted once more for each applied fix that has it. -/
  counted : ∀ (counts : Counts) (code : Text), (r.countInto counts).count code
    = counts.count code + r.applied.countP fun f => f.code = code
  /-- A code that no applied fix has keeps its entry, or its lack of one. -/
  uncounted : ∀ (counts : Counts) (code : Text), (∀ f ∈ r.applied, f.code ≠ code) →
    (r.countInto counts).get? code = counts.get? code

end Applied

/-- **Applying a batch is one simultaneous replacement.**  The fixes may come in any order and may
lie outside the text; each of them only has to start no later than it ends. -/
theorem applyFixes_isReplacement (s : Snapshot) (fixes : List Fix)
    (h : ∀ f ∈ fixes, f.startIn s ≤ f.stopIn s) :
    (applyFixes s fixes).IsReplacement s fixes := by
  have hreached := reached_applyFixes s fixes h
  have hsub : ∀ f ∈ (applyFixes s fixes).applied, f.startIn s ≤ f.stopIn s :=
    fun f hf => h f (mem_of_mem_applied h hf)
  refine
    { marks := hreached.marks
      apart := hreached.apart
      content_eq := hreached.content_eq
      rest_kept := ?_
      counted := ?_
      uncounted := ?_ }
  · have hown := s.text.replaceParts_own 0 ((applyFixes s fixes).applied.reverse.map (Fix.part s))
      (fun p hp => by
        obtain ⟨f, hf, rfl⟩ := List.mem_map.mp hp
        exact ⟨Nat.zero_le _, hsub f (List.mem_reverse.mp hf)⟩)
      (List.pairwise_map.mpr (List.pairwise_reverse.mpr hreached.apart))
    rwa [List.map_map] at hown
  · intro counts code
    rw [Applied.countInto, Counts.count_tally, count_map_code]
  · intro counts code hcode
    rw [Applied.countInto]
    refine Counts.get?_tally_of_not_mem code _ counts fun hmem => ?_
    obtain ⟨f, hf, heq⟩ := List.mem_map.mp hmem
    exact hcode f hf heq

/-- A batch with a fix past the end of its line: in the order of positions it comes second, but its
indices lie beyond those of the fix before it, so it is skipped. -/
def crossingBatch : List Fix :=
  [{ range := .ofCoords 0 0 0 1, newText := "YY", code := "M0236" },
   { range := .ofCoords 0 9 0 10, newText := [], code := "M0223" },
   { range := .ofCoords 1 0 1 1, newText := "X", code := "M0237" }]

theorem applyFixes_isReplacement_crossing :
    (∀ f ∈ crossingBatch, f.startIn (.ofText "ab\ncd") ≤ f.stopIn (.ofText "ab\ncd")) ∧
      (applyFixes (.ofText "ab\ncd") crossingBatch).content = "YYb\nXd".toList ∧
      (applyFixes (.ofText "ab\ncd") crossingBatch).IsReplacement (.ofText "ab\ncd")
        crossingBatch :=
  ⟨by decide, by decide, applyFixes_isReplacement _ _ (by decide)⟩

end Amend
