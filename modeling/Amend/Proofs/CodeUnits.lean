import Amend.Proofs.Places
import Mathlib.Order.Bounds.Defs

/-!
# From code units to characters

A compiler counts the characters of a line in UTF-16 code units, and an editor cuts the line between
characters.  `Text.indexAt` goes from the one to the other.  It is given any number whatever: one in
the middle of a surrogate pair, one past the end of the line, a negative one.

**Within the text** the answer is the least index before which there are as many code units
(`isLeast_indexAt`).  That it is not too small is an induction along the text
(`le_units_take_indexOfUnits`); that nothing smaller will do follows from the other two facts about
it, that it grows with the offset and that it undoes `Text.units` on every beginning of the text.

**Past the end** every further unit is one further character (`indexAt_units_add`).

**Short cuts.**  `Text.indexAt` counts only if it has to.  What the count alone would give is
`Text.scanUnits` from the beginning of the text, and `scanUnits_eq_indexAt` says that it is the same
for every offset.
-/

namespace Amend.Text

/-- The characters before the index take up no fewer code units than are asked for. -/
lemma le_units_take_indexOfUnits (t : Text) {u : Nat} (h : u ≤ t.units) :
    u ≤ Text.units (t.take (t.indexOfUnits u)) := by
  induction t generalizing u with
  | nil => exact Nat.le_trans h (Nat.zero_le _)
  | cons c cs ih =>
      cases u with
      | zero => exact Nat.zero_le _
      | succ u =>
          rw [units_cons] at h
          have hrest : u + 1 - unitsOf c ≤ Text.units cs := by omega
          have hle := ih hrest
          rw [indexOfUnits, List.take_succ_cons, units_cons]
          omega

/-- **Within the text**, the index is the least one before which there are as many code units. -/
lemma isLeast_indexAt (t : Text) {u : Int} (h : u ≤ t.units) :
    IsLeast {i : Nat | i ≤ t.length ∧ u ≤ Text.units (t.take i)} (t.indexAt u) := by
  constructor
  · refine ⟨t.indexAt_le_length h, ?_⟩
    have hreach := t.le_units_take_indexOfUnits (Int.toNat_le.mpr h)
    rw [indexAt_eq]
    omega
  · rintro i ⟨hi, hunits⟩
    calc t.indexAt u ≤ t.indexAt (Text.units (t.take i)) := t.indexAt_mono hunits
      _ = i := t.indexAt_units_take hi

/-- **Inside a surrogate pair** the index is the one behind the pair. -/
lemma indexAt_inside_pair {t : Text} {i : Nat} {c : Char} (hc : t[i]? = some c)
    (hpair : unitsOf c = 2) : t.indexAt (Text.units (t.take i) + 1) = i + 1 := by
  obtain ⟨hi, rfl⟩ := List.getElem?_eq_some_iff.mp hc
  have hindex := indexOfUnits_append (t.take i) (t.drop i) 1
  rw [List.take_append_drop, List.length_take, Nat.min_eq_left (Nat.le_of_lt hi),
    List.drop_eq_getElem_cons hi, indexOfUnits, hpair, indexOfUnits_zero] at hindex
  exact_mod_cast (t.indexAt_natCast _).trans hindex

/-- **Past the end** every further code unit is one further character. -/
lemma indexAt_units_add (t : Text) (d : Nat) : t.indexAt (t.units + d) = t.length + d := by
  have hindex := indexOfUnits_append t [] d
  rw [List.append_nil, indexOfUnits_nil] at hindex
  exact_mod_cast (t.indexAt_natCast _).trans hindex

/-- **Without short cuts.**  The count from the beginning of the text gives the same index. -/
lemma scanUnits_eq_indexAt (t : Text) (u : Int) : scanUnits u 0 0 t = t.indexAt u := by
  rw [scanUnits_eq, indexAt_eq, Nat.zero_add, Int.natCast_zero, Int.sub_zero]

/-- **The index of an offset in code units** is the least one before which there are as many of
them, if the text has so many; so it undoes the measuring of a beginning, and inside a surrogate pair
it is the one behind the pair.  Past the end every further unit is one further character.  A larger
offset never has a smaller index.  The count of the code units alone would give the same index for
every offset, and in a text of ASCII characters it gives the offset itself. -/
theorem indexAt_least (t : Text) :
    (∀ u : Int, u ≤ t.units →
      IsLeast {i : Nat | i ≤ t.length ∧ u ≤ Text.units (t.take i)} (t.indexAt u)) ∧
    (∀ i ≤ t.length, t.indexAt (Text.units (t.take i)) = i) ∧
    (∀ i c, t[i]? = some c → unitsOf c = 2 → t.indexAt (Text.units (t.take i) + 1) = i + 1) ∧
    (∀ d : Nat, t.indexAt (t.units + d) = t.length + d) ∧
    (∀ u v : Int, u ≤ v → t.indexAt u ≤ t.indexAt v) ∧
    (∀ u : Int, scanUnits u 0 0 t = t.indexAt u) ∧
    (t.isAscii → ∀ u : Int, scanUnits u 0 0 t = u.toNat) := by
  refine ⟨fun u h => t.isLeast_indexAt h, fun i hi => t.indexAt_units_take hi,
    fun i c hc hpair => indexAt_inside_pair hc hpair, t.indexAt_units_add,
    fun u v h => t.indexAt_mono h, t.scanUnits_eq_indexAt, fun hascii u => ?_⟩
  rw [scanUnits_eq_indexAt, indexAt_eq, indexOfUnits_of_isAscii hascii]

/-- An emoji between two letters: the offset in the middle of its pair belongs to the second letter,
and so does the one behind it.  In a text of letters only, the count gives the offset, also past the
end. -/
theorem indexAt_least_emoji :
    let t : Text := "a😀b"
    let letters : Text := "ab"
    (2 : Int) ≤ t.units ∧
      IsLeast {i : Nat | i ≤ t.length ∧ (2 : Int) ≤ Text.units (t.take i)} (t.indexAt 2) ∧
      2 ≤ t.length ∧ t.indexAt (Text.units (t.take 2)) = 2 ∧
      t[1]? = some '😀' ∧ unitsOf '😀' = 2 ∧ t.indexAt (Text.units (t.take 1) + 1) = 2 ∧
      letters.isAscii ∧ scanUnits 7 0 0 letters = 7 := by
  obtain ⟨hleast, hundo, hpair, -, -, -, -⟩ := indexAt_least "a😀b".toList
  obtain ⟨-, -, -, -, -, -, hascii⟩ := indexAt_least "ab".toList
  exact ⟨by decide, hleast 2 (by decide), by decide, hundo 2 (by decide), rfl, rfl,
    hpair 1 '😀' rfl rfl, rfl, hascii rfl 7⟩

end Amend.Text
