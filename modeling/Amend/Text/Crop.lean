import Amend.Text.Columns

/-!
# Cutting a text to a width

`Text.crop` shortens a text that is too wide.  The place of the cut is found by halving: the first
beginning that is met and takes exactly the given columns is kept.  So where characters without
columns stand at the cut, the halving decides how many of them stay.  If the cut falls into a wide
character, a blank takes the place of its first half.

Main statement: what is left is never wider than asked for (`columns_crop_le`).
-/

namespace Amend.Text

/-- Does the text end in a wide character? -/
def endsWide (t : Text) : Bool := t.getLast?.any fun c => columnsOf c == 2

/-- Looks for the cut among the beginnings of `t` that end at the places from `lo` up to `hi`. -/
def cropBetween (width : Nat) (t : Text) : (steps lo hi : Nat) → Text
  | 0, _, _ => []
  | steps + 1, lo, hi =>
    let middle := (lo + hi) / 2
    let start : Text := t.take (middle + 1)
    if start.columns = width then start
    else if start.columns = width + 1 && start.endsWide then start.dropLast ++ [' ']
    else if width < start.columns then cropBetween width t steps lo middle
    else cropBetween width t steps middle hi

/-- The beginning of a text that is no wider than `width`.  Every step halves the places that are
left, so there are more steps than needed. -/
def crop (width : Nat) (t : Text) : Text :=
  if t.columns ≤ width then t else cropBetween width t (t.length + 1) 0 t.length

/-- Half of the last character, if that one is wide, takes one column less. -/
theorem columns_dropLast_blank {t : Text} (h : t.endsWide = true) :
    columns (t.dropLast ++ [' ']) + 1 = t.columns := by
  cases hlast : t.getLast? with
  | none => simp [endsWide, hlast] at h
  | some c =>
    have hwide : columnsOf c = 2 := by simpa [endsWide, hlast] using h
    have hblank : columnsOf ' ' = 1 := by decide
    obtain ⟨u, rfl⟩ := List.getLast?_eq_some_iff.1 hlast
    simp [hwide, hblank]

theorem columns_cropBetween_le (width : Nat) (t : Text) (steps lo hi : Nat) :
    (cropBetween width t steps lo hi).columns ≤ width := by
  fun_induction cropBetween width t steps lo hi with
  | case1 => simp
  | case2 _ _ _ _ _ heq => exact Nat.le_of_eq heq
  | case3 _ _ _ _ _ _ hcut =>
    obtain ⟨hcolumns, hwide⟩ := Bool.and_eq_true_iff.1 hcut
    have hblank := columns_dropLast_blank hwide
    have hcolumns := of_decide_eq_true hcolumns
    omega
  | case4 _ _ _ _ _ _ _ _ ih => exact ih
  | case5 _ _ _ _ _ _ _ _ ih => exact ih

/-- What is left of a text is no wider than asked for. -/
theorem columns_crop_le (width : Nat) (t : Text) : (crop width t).columns ≤ width := by
  unfold crop
  split
  · assumption
  · exact columns_cropBetween_le width t _ _ _

end Amend.Text
