import Amend.Counts
import Amend.Edit.Basic

/-!
# Applying a batch of fixes

All fixes of a batch refer to one snapshot.  They are applied from the end of the file to its
beginning, so that the text before a fix is still the text of the snapshot when its turn comes, and
offsets never have to be adjusted.  A fix that reaches into one that has already been applied is
skipped, never merged.

* `Fix.sort` is the order of application; fixes that start at the same position keep their order.
* `Splice` is the state of the work, `Splice.step` applies or skips one fix.
* `applyFixes` is the whole batch.
-/

namespace Amend

namespace Fix

/-- Does the first fix start at or after the second? -/
def startsNoEarlier (a b : Fix) : Bool := b.range.start ≤ a.range.start

/-- Fixes by start position, last in the file first. -/
def sort (fixes : List Fix) : List Fix := stableSort startsNoEarlier fixes

end Fix

/-- The outcome of applying a batch of fixes. -/
structure Applied where
  content : Text
  /-- The fixes that were applied, last in the file first. -/
  applied : List Fix := []
  /-- The fixes that overlapped one applied before them. -/
  skipped : List Fix := []
  deriving DecidableEq, Repr, Inhabited

/-- The state of the work: the outcome so far, and the start of the last fix applied. -/
structure Splice extends Applied where
  /-- Fixes may reach up to here; nothing limits the first one. -/
  limit : Option Nat := none
  deriving DecidableEq, Repr, Inhabited

namespace Splice

/-- The state before any fix. -/
def start (s : Snapshot) : Splice := { content := s.text }

/-- Does a fix that ends at `stop` reach into one that has been applied? -/
def overlaps (w : Splice) (stop : Nat) : Bool :=
  match w.limit with
  | none => false
  | some limit => limit < stop

/-- Applies one fix, or skips it if it overlaps. -/
def step (s : Snapshot) (w : Splice) (fix : Fix) : Splice :=
  let start := s.offset fix.range.start
  let stop := s.offset fix.range.stop
  if w.overlaps stop then { w with skipped := w.skipped ++ [fix] }
  else
    { w with
      content := w.content.take start ++ fix.newText ++ w.content.drop stop
      applied := w.applied ++ [fix]
      limit := some start }

end Splice

/-- Applies a batch of fixes, in any order, to the snapshot that they refer to. -/
def applyFixes (s : Snapshot) (fixes : List Fix) : Applied :=
  ((Fix.sort fixes).foldl (Splice.step s) (.start s)).toApplied

namespace Applied

/-- Adds the applied fixes to the counts per code, in the order of application. -/
def countInto (a : Applied) (counts : Counts) : Counts := counts.tally (a.applied.map Fix.code)

end Applied

end Amend
