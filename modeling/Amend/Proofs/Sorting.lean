import Amend.Edit.Apply
import Amend.Proofs.Places
import Mathlib.Data.List.Sort

/-!
# What is put in order

Texts (`Text.sort`), counts (`Counts.sorted`) and fixes (`Fix.sort`) are sorted by `stableSort`.  It
is the insertion sort of Mathlib (`stableSort_eq_insertionSort`), so that nothing is lost and nothing
is added, and the result is in order, since all three orders are total and transitive.

`filter_stableSort` says what makes the sort stable: members that are equal for the order keep their
order.  For fixes this means that those at one position are applied as they were given
(`Fix.filter_sort`).
-/

namespace Amend

variable {α : Type}

/-! ## The sort of the library -/

lemma insertInOrder_eq_orderedInsert (le : α → α → Bool) (a : α) (l : List α) :
    insertInOrder le a l = l.orderedInsert (fun a b => le a b = true) a := by
  induction l with
  | nil => rfl
  | cons b bs ih => rw [insertInOrder, ih, List.orderedInsert_cons]

/-- **A stable sort is an insertion sort.** -/
lemma stableSort_eq_insertionSort (le : α → α → Bool) (l : List α) :
    stableSort le l = l.insertionSort fun a b => le a b = true := by
  induction l with
  | nil => rfl
  | cons a as ih =>
      rw [stableSort, ih, insertInOrder_eq_orderedInsert, List.insertionSort_cons]

/-! ## Equal members -/

/-- A member that is inserted comes first among its equals. -/
lemma filter_insertInOrder {le : α → α → Bool} {p : α → Bool}
    (equal : ∀ a b, p a → p b → le a b) (a : α) (l : List α) :
    (insertInOrder le a l).filter p = (a :: l).filter p := by
  induction l with
  | nil => rfl
  | cons b bs ih =>
    rw [insertInOrder]
    split
    · rfl
    · next hab =>
      by_cases ha : p a
      · -- A member in front of which `a` does not go is none of its equals.
        have hb : ¬ p b := fun hb => hab (equal a b ha hb)
        simp [ih, ha, hb]
      · simp [List.filter_cons, ih, ha]

/-- **Members that are equal for the order keep their order.** -/
lemma filter_stableSort {le : α → α → Bool} {p : α → Bool}
    (equal : ∀ a b, p a → p b → le a b) (l : List α) :
    (stableSort le l).filter p = l.filter p := by
  induction l with
  | nil => rfl
  | cons a as ih =>
    rw [stableSort, filter_insertInOrder equal, List.filter_cons, List.filter_cons, ih]

/-! ## Texts -/

namespace Text

lemma le_total : ∀ a b : Text, le a b ∨ le b a
  | [], _ => .inl rfl
  | _ :: _, [] => .inr rfl
  | a :: as, b :: bs => by
      have ih := le_total as bs
      simp only [le, Bool.or_eq_true, Bool.and_eq_true, decide_eq_true_eq, beq_iff_eq]
      rcases Nat.lt_trichotomy a.toNat b.toNat with hlt | heq | hgt
      · exact .inl (.inl hlt)
      · exact ih.imp (fun h => .inr ⟨heq, h⟩) fun h => .inr ⟨heq.symm, h⟩
      · exact .inr (.inl hgt)

lemma le_trans : ∀ a b c : Text, le a b → le b c → le a c
  | [], _, _, _, _ => rfl
  | a :: as, b :: bs, c :: cs, hab, hbc => by
      simp only [le, Bool.or_eq_true, Bool.and_eq_true, decide_eq_true_eq, beq_iff_eq] at hab hbc ⊢
      rcases hab with hab | ⟨hab, hrest⟩
      · rcases hbc with hbc | ⟨hbc, -⟩ <;> exact .inl (by omega)
      · rcases hbc with hbc | ⟨hbc, hrest'⟩
        · exact .inl (by omega)
        · exact .inr ⟨hab.trans hbc, le_trans as bs cs hrest hrest'⟩

instance : Std.Total fun a b : Text => le a b = true := ⟨le_total⟩

instance : IsTrans Text fun a b => le a b = true := ⟨le_trans⟩

lemma sort_eq_insertionSort (ts : List Text) :
    sort ts = ts.insertionSort fun a b => le a b = true := stableSort_eq_insertionSort le ts

end Text

/-! ## Counts -/

namespace Counts

instance : Std.Total fun a b : Text × Int => Text.le a.1 b.1 = true :=
  ⟨fun a b => Text.le_total a.1 b.1⟩

instance : IsTrans (Text × Int) fun a b => Text.le a.1 b.1 = true :=
  ⟨fun a b c => Text.le_trans a.1 b.1 c.1⟩

lemma sorted_eq_insertionSort (counts : Counts) :
    counts.sorted = counts.entries.insertionSort fun a b => Text.le a.1 b.1 = true :=
  stableSort_eq_insertionSort _ counts.entries

end Counts

/-! ## Fixes -/

namespace Fix

instance : Std.Total fun f g : Fix => startsNoEarlier f g = true := by
  refine ⟨fun f g => ?_⟩
  simp only [startsNoEarlier, decide_eq_true_eq, Position.le_def]
  omega

instance : IsTrans Fix fun f g => startsNoEarlier f g = true := by
  refine ⟨fun f g h hfg hgh => ?_⟩
  simp only [startsNoEarlier, decide_eq_true_eq, Position.le_def] at *
  omega

lemma sort_eq_insertionSort (fixes : List Fix) :
    sort fixes = fixes.insertionSort fun f g => startsNoEarlier f g = true :=
  stableSort_eq_insertionSort startsNoEarlier fixes

lemma perm_sort (fixes : List Fix) : (sort fixes).Perm fixes := by
  rw [sort_eq_insertionSort]
  exact List.perm_insertionSort _ fixes

lemma mem_sort {fixes : List Fix} {f : Fix} : f ∈ sort fixes ↔ f ∈ fixes := by
  rw [sort_eq_insertionSort, List.mem_insertionSort]

lemma pairwise_sort (fixes : List Fix) : (sort fixes).Pairwise fun f g => startsNoEarlier f g := by
  rw [sort_eq_insertionSort]
  exact List.pairwise_insertionSort _ fixes

/-- **Fixes at one position** keep their order. -/
lemma filter_sort (p : Position) (fixes : List Fix) :
    (sort fixes).filter (fun f => f.range.start = p)
      = fixes.filter fun f => f.range.start = p := by
  refine filter_stableSort (fun f g hf hg => ?_) fixes
  rw [startsNoEarlier, of_decide_eq_true hf, of_decide_eq_true hg, decide_eq_true_eq]
  exact .inr ⟨rfl, Int.le_refl _⟩

end Fix

end Amend
