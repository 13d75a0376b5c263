import Amend.Edit.Remap
import Amend.Proofs.Batch
import Amend.Proofs.Places
import Mathlib.Tactic.Set

/-!
# Diagnostics after deletions

The first phase deletes text of single lines.  Three computations then have to agree about what is
left: the cutting of the text, in characters; the shift of a reported position, in code units; and
the resolution of the shifted position against the new text.

All three are compared with one description of what happened.  `Text.without` leaves out the
characters whose indices are gone, and `deletedBy` says which indices those are.

* `content_eq_without`: the content after a batch of deletions is the text without them.
* `endPosition_without`: at the end of some beginning of the text without the deletions, the position
  is the old one moved past them.  The induction is on the applied fixes, last in the file first:
  what the last of them leaves before its start is the same question for the others.
* `pastFixes_follows`: a moved diagnostic covers what was left of its text.
-/

namespace Amend

namespace Text

/-! ## Leaving out characters -/

/-- The characters whose indices are not gone; `first` is the index of the first one. -/
def without (gone : Nat → Bool) : (first : Nat) → Text → Text
  | _, [] => []
  | first, c :: cs =>
    if gone first then without gone (first + 1) cs else c :: without gone (first + 1) cs

lemma without_append (gone : Nat → Bool) : ∀ (first : Nat) (a b : Text),
    without gone first (a ++ b) = without gone first a ++ without gone (first + a.length) b
  | _, [], _ => rfl
  | first, c :: cs, b => by
      have ih := without_append gone (first + 1) cs b
      have hlen : first + (c :: cs).length = first + 1 + cs.length := by
        rw [List.length_cons]
        omega
      rw [List.cons_append, without, without, ih, hlen]
      split <;> simp

/-- What is left of a text is what is left before an index, and what is left from it on. -/
lemma without_take_append (gone : Nat → Bool) (t rest : Text) {i : Nat} (hi : i ≤ t.length) :
    without gone 0 (t.take i ++ rest) = without gone 0 (t.take i) ++ without gone i rest := by
  rw [without_append, List.length_take, Nat.min_eq_left hi, Nat.zero_add]

/-- Only the indices of the text itself matter. -/
lemma without_congr {gone gone' : Nat → Bool} : ∀ (first : Nat) (t : Text),
    (∀ j, first ≤ j → j < first + t.length → gone j = gone' j) →
      without gone first t = without gone' first t
  | _, [], _ => rfl
  | first, c :: cs, h => by
      have hfirst : gone first = gone' first := h first (Nat.le_refl _) (by simp)
      have hrest := without_congr (first + 1) cs fun j hj hlt =>
        h j (by omega) (by rw [List.length_cons]; omega)
      rw [without, without, hfirst, hrest]

lemma without_eq_self {gone : Nat → Bool} : ∀ (first : Nat) (t : Text),
    (∀ j, first ≤ j → j < first + t.length → gone j = false) → without gone first t = t
  | _, [], _ => rfl
  | first, c :: cs, h => by
      have hfirst : gone first = false := h first (Nat.le_refl _) (by simp)
      have hrest := without_eq_self (first + 1) cs fun j hj hlt =>
        h j (by omega) (by rw [List.length_cons]; omega)
      rw [without, hfirst, hrest]
      rfl

lemma without_eq_nil {gone : Nat → Bool} : ∀ (first : Nat) (t : Text),
    (∀ j, first ≤ j → j < first + t.length → gone j = true) → without gone first t = []
  | _, [], _ => rfl
  | first, c :: cs, h => by
      have hfirst : gone first = true := h first (Nat.le_refl _) (by simp)
      have hrest := without_eq_nil (first + 1) cs fun j hj hlt =>
        h j (by omega) (by rw [List.length_cons]; omega)
      rw [without, hfirst, hrest]
      rfl

/-- What is left stands in the text in the same order. -/
lemma without_sublist (gone : Nat → Bool) : ∀ (first : Nat) (t : Text),
    (without gone first t).Sublist t
  | _, [] => .slnil
  | first, c :: cs => by
      have ih := without_sublist gone (first + 1) cs
      rw [without]
      split
      · exact ih.cons c
      · exact ih.cons_cons c

/-- What is left and what is gone make up the text. -/
lemma length_without_add (gone : Nat → Bool) : ∀ (first : Nat) (t : Text),
    (without gone first t).length + (List.range' first t.length).countP gone = t.length
  | _, [] => rfl
  | first, c :: cs => by
      have ih := length_without_add gone (first + 1) cs
      rw [without, List.length_cons, List.range'_succ, List.countP_cons]
      cases hgone : gone first
      · simp only [Bool.false_eq_true, if_false, List.length_cons]
        omega
      · simp only [if_true]
        omega

end Text

/-! ## What a list of deletions covers -/

/-- Does the fix replace the character with the given index? -/
def Fix.covers (s : Snapshot) (f : Fix) (i : Nat) : Bool := f.startIn s ≤ i && i < f.stopIn s

/-- Does one of the fixes replace the character with the given index? -/
def deletedBy (s : Snapshot) (fixes : List Fix) (i : Nat) : Bool := fixes.any (·.covers s i)

lemma deletedBy_cons (s : Snapshot) (f : Fix) (fs : List Fix) (i : Nat) :
    deletedBy s (f :: fs) i = (f.covers s i || deletedBy s fs i) := rfl

lemma deletedBy_eq_false {s : Snapshot} {fs : List Fix} {i : Nat}
    (h : ∀ f ∈ fs, i < f.startIn s ∨ f.stopIn s ≤ i) : deletedBy s fs i = false := by
  rw [deletedBy, List.any_eq_false]
  intro f hf
  simp only [Fix.covers, Bool.and_eq_true, decide_eq_true_eq]
  have := h f hf
  omega

/-- Deletions from left to right leave the text without what they cover. -/
lemma replaceParts_eq_without (s : Snapshot) : ∀ (done : Nat) (fs : List Fix),
    (∀ f ∈ fs, f.newText = [] ∧ done ≤ f.startIn s ∧ f.startIn s ≤ f.stopIn s) →
    fs.Pairwise (fun a b => a.stopIn s ≤ b.startIn s) →
      s.text.replaceParts done (fs.map (Fix.part s))
        = Text.without (deletedBy s fs) done (s.text.drop done)
  | done, [], _, _ => (Text.without_eq_self done _ fun _ _ _ => rfl).symm
  | done, f :: fs, h, hapart => by
      obtain ⟨hnew, hdone, hf⟩ := h f List.mem_cons_self
      obtain ⟨hfirst, hrest⟩ := List.pairwise_cons.mp hapart
      have hfs : ∀ g ∈ fs, g.newText = [] ∧ f.stopIn s ≤ g.startIn s ∧ g.startIn s ≤ g.stopIn s :=
        fun g hg => ⟨(h g (List.mem_cons_of_mem f hg)).1, hfirst g hg,
          (h g (List.mem_cons_of_mem f hg)).2.2⟩
      have hstop : f.stopIn s ≤ s.text.length := s.offset_le_length _
      have hkept : Text.without (deletedBy s (f :: fs)) done (s.text.slice done (f.startIn s))
          = s.text.slice done (f.startIn s) := by
        refine Text.without_eq_self _ _ fun j _ hj => deletedBy_eq_false fun g hg => Or.inl ?_
        rw [Text.length_slice _ (by omega)] at hj
        rcases List.mem_cons.mp hg with rfl | hg
        · omega
        · have := hfirst g hg
          omega
      have hgone : Text.without (deletedBy s (f :: fs)) (f.startIn s)
          (s.text.slice (f.startIn s) (f.stopIn s)) = [] := by
        refine Text.without_eq_nil _ _ fun j hj hlt => ?_
        rw [Text.length_slice _ hstop] at hlt
        have hcovers : f.covers s j = true := by
          simp only [Fix.covers, Bool.and_eq_true, decide_eq_true_eq]
          omega
        rw [deletedBy_cons, hcovers, Bool.true_or]
      have hrest' : Text.without (deletedBy s (f :: fs)) (f.stopIn s) (s.text.drop (f.stopIn s))
          = Text.without (deletedBy s fs) (f.stopIn s) (s.text.drop (f.stopIn s)) := by
        refine Text.without_congr _ _ fun j hj _ => ?_
        have hcovers : f.covers s j = false := by
          simp only [Fix.covers, Bool.and_eq_false_iff, decide_eq_false_iff_not]
          omega
        rw [deletedBy_cons, hcovers, Bool.false_or]
      have hsplit : s.text.drop done = s.text.slice done (f.startIn s) ++
          (s.text.slice (f.startIn s) (f.stopIn s) ++ s.text.drop (f.stopIn s)) := by
        rw [Text.slice_append_drop _ hf, Text.slice_append_drop _ hdone]
      have hstart' : done + (s.text.slice done (f.startIn s)).length = f.startIn s := by
        rw [Text.length_slice _ (by omega)]
        omega
      have hstop' : f.startIn s + (s.text.slice (f.startIn s) (f.stopIn s)).length
          = f.stopIn s := by
        rw [Text.length_slice _ hstop]
        omega
      rw [hsplit, Text.without_append, hstart', Text.without_append, hstop', hkept, hgone, hrest',
        ← replaceParts_eq_without s (f.stopIn s) fs hfs hrest, List.nil_append, List.map_cons,
        Text.replaceParts]
      simp only [Fix.part, hnew, List.append_nil]

/-! ## Deletions on a line -/

/-- **A deletion of the first phase.**  It lies on one line of the text, its ends are between
characters of that line, and it puts nothing in place of what it covers. -/
structure Fix.DeletesIn (s : Snapshot) (f : Fix) : Prop where
  newText_eq : f.newText = []
  oneLine : f.range.start.line = f.range.stop.line
  ordered : f.range.start.character ≤ f.range.stop.character
  admits_start : s.Admits f.range.start
  admits_stop : s.Admits f.range.stop

instance (s : Snapshot) (f : Fix) : Decidable (f.DeletesIn s) :=
  decidable_of_iff (f.newText = [] ∧ f.range.start.line = f.range.stop.line ∧
      f.range.start.character ≤ f.range.stop.character ∧ s.Admits f.range.start ∧
      s.Admits f.range.stop)
    ⟨fun ⟨hnew, hline, hchar, hstart, hstop⟩ => ⟨hnew, hline, hchar, hstart, hstop⟩,
      fun h => ⟨h.newText_eq, h.oneLine, h.ordered, h.admits_start, h.admits_stop⟩⟩

namespace Fix.DeletesIn

variable {s : Snapshot} {f : Fix}

lemma start_eq (h : f.DeletesIn s) :
    f.range.start = Text.endPosition (s.text.take (f.startIn s)) :=
  Snapshot.eq_endPosition_of_admits h.admits_start

lemma stop_eq (h : f.DeletesIn s) :
    f.range.stop = Text.endPosition (s.text.take (f.stopIn s)) :=
  Snapshot.eq_endPosition_of_admits h.admits_stop

lemma startIn_le_stopIn (h : f.DeletesIn s) : f.startIn s ≤ f.stopIn s := by
  refine Nat.le_of_not_lt fun hlt => ?_
  have hlen : f.startIn s ≤ s.text.length := s.offset_le_length _
  have hcontra := Text.endPosition_lt s.text hlt hlen
  rw [← h.start_eq, ← h.stop_eq] at hcontra
  have hline := h.oneLine
  have hchar := h.ordered
  omega

/-- What is deleted has no line feed: its two ends are on one line. -/
lemma newline_not_mem (h : f.DeletesIn s) : '\n' ∉ s.text.slice (f.startIn s) (f.stopIn s) := by
  intro hmem
  have hstop := h.stop_eq
  rw [← Text.take_append_slice s.text h.startIn_le_stopIn, Text.endPosition_append_of_mem hmem,
    ← h.start_eq] at hstop
  have hline := h.oneLine
  have hpos : 0 < (s.text.slice (f.startIn s) (f.stopIn s)).count '\n' :=
    List.count_pos_iff.mpr hmem
  rw [hstop, Text.line_endPosition] at hline
  simp only at hline
  omega

/-- Inside the deletion and at its end, the position has moved by what has been deleted so far. -/
lemma endPosition_take_min (h : f.DeletesIn s) {o : Nat} (ho : f.startIn s ≤ o) :
    Text.endPosition (s.text.take (min (f.stopIn s) o))
      = f.range.start.shifted (Text.units (s.text.slice (f.startIn s) (min (f.stopIn s) o))) := by
  have hle : f.startIn s ≤ min (f.stopIn s) o := Nat.le_min.mpr ⟨h.startIn_le_stopIn, ho⟩
  have hnewline : '\n' ∉ s.text.slice (f.startIn s) (min (f.stopIn s) o) := by
    intro hmem
    apply h.newline_not_mem
    rw [← Text.slice_append_slice s.text hle (Nat.min_le_left _ _)]
    exact List.mem_append_left _ hmem
  rw [← Text.take_append_slice s.text hle, Text.endPosition_append hnewline, ← h.start_eq]

lemma isLineDeletion (h : f.DeletesIn s) : f.isLineDeletion = true := by
  rw [Fix.isLineDeletion, Edit.isDeletion, h.newText_eq, Range.isSingleLine, h.oneLine]
  simp

end Fix.DeletesIn

/-! ## How far a position moves -/

lemma Fix.removedBefore_of_le {f : Fix} {p : Position} (hline : f.range.start.line = p.line)
    (hle : f.range.start.character ≤ p.character) :
    f.removedBefore p = min f.range.stop.character p.character - f.range.start.character := by
  rw [Fix.removedBefore, if_pos (by simp [hline, hle])]

/-- A deletion on another line, or one that does not start before the position, removes nothing. -/
lemma Fix.removedBefore_eq_zero {f : Fix} {p : Position}
    (h : f.range.start.line ≠ p.line ∨
      (p.character ≤ f.range.start.character ∧
        f.range.start.character ≤ f.range.stop.character)) :
    f.removedBefore p = 0 := by
  by_cases hcond : f.range.start.line = p.line ∧ f.range.start.character ≤ p.character
  · rw [Fix.removedBefore_of_le hcond.1 hcond.2]
    omega
  · rw [Fix.removedBefore, if_neg (by simpa using hcond)]

namespace Position

lemma pastDeletions_nil (p : Position) : p.pastDeletions [] = p := by
  simp [pastDeletions, removedBy, shifted]

lemma removedBy_eq_zero {p : Position} : ∀ {fs : List Fix},
    (∀ f ∈ fs, f.removedBefore p = 0) → p.removedBy fs = 0
  | [], _ => rfl
  | f :: fs, h => by
      rw [removedBy, h f List.mem_cons_self,
        removedBy_eq_zero fun g hg => h g (List.mem_cons_of_mem f hg)]
      rfl

/-- On a line without deletions, nothing moves. -/
lemma pastDeletions_eq_self {p : Position} {fs : List Fix}
    (h : ∀ f ∈ fs, f.range.start.line ≠ p.line) : p.pastDeletions fs = p := by
  rw [pastDeletions, removedBy_eq_zero fun f hf => Fix.removedBefore_eq_zero (Or.inl (h f hf))]
  simp [shifted]

lemma removedBy_congr {p q : Position} : ∀ {fs : List Fix},
    (∀ f ∈ fs, f.removedBefore p = f.removedBefore q) → p.removedBy fs = q.removedBy fs
  | [], _ => rfl
  | f :: fs, h => by
      rw [removedBy, removedBy, h f List.mem_cons_self,
        removedBy_congr fun g hg => h g (List.mem_cons_of_mem f hg)]

end Position

/-! ## The position in the text that is left -/

section

variable {s : Snapshot} {f : Fix} {fs : List Fix}

/-- Before its start, the last of several deletions changes nothing. -/
lemma without_take_of_le_start {o : Nat} (ho : o ≤ f.startIn s) :
    Text.without (deletedBy s (f :: fs)) 0 (s.text.take o)
      = Text.without (deletedBy s fs) 0 (s.text.take o) := by
  refine Text.without_congr _ _ fun j _ hj => ?_
  rw [List.length_take] at hj
  have hcovers : f.covers s j = false := by
    simp only [Fix.covers, Bool.and_eq_false_iff, decide_eq_false_iff_not]
    omega
  rw [deletedBy_cons, hcovers, Bool.false_or]

/-- From its start on, the last of several deletions leaves what the others leave before it, and then
what stands behind it. -/
lemma without_take_of_start_le {o : Nat} (hf : f.startIn s ≤ f.stopIn s)
    (hfs : ∀ g ∈ fs, g.stopIn s ≤ f.startIn s) (hstart : f.startIn s ≤ o)
    (ho : o ≤ s.text.length) :
    Text.without (deletedBy s (f :: fs)) 0 (s.text.take o)
      = Text.without (deletedBy s fs) 0 (s.text.take (f.startIn s))
        ++ s.text.slice (min (f.stopIn s) o) o := by
  have hgone : Text.without (deletedBy s (f :: fs)) (f.startIn s)
      (s.text.slice (f.startIn s) (min (f.stopIn s) o)) = [] := by
    refine Text.without_eq_nil _ _ fun j hj hlt => ?_
    rw [Text.length_slice _ (by omega)] at hlt
    have hcovers : f.covers s j = true := by
      simp only [Fix.covers, Bool.and_eq_true, decide_eq_true_eq]
      omega
    rw [deletedBy_cons, hcovers, Bool.true_or]
  have hkept : Text.without (deletedBy s (f :: fs)) (min (f.stopIn s) o)
      (s.text.slice (min (f.stopIn s) o) o) = s.text.slice (min (f.stopIn s) o) o := by
    refine Text.without_eq_self _ _ fun j hj hlt => deletedBy_eq_false fun g hg => Or.inr ?_
    rw [Text.length_slice _ ho] at hlt
    rcases List.mem_cons.mp hg with rfl | hg
    · omega
    · have := hfs g hg
      omega
  have hlen : f.startIn s + (s.text.slice (f.startIn s) (min (f.stopIn s) o)).length
      = min (f.stopIn s) o := by
    rw [Text.length_slice _ (by omega)]
    omega
  rw [← Text.take_append_slice s.text hstart,
    ← Text.slice_append_slice s.text (i := f.startIn s) (j := min (f.stopIn s) o) (by omega)
      (by omega),
    Text.without_take_append _ s.text _ (Nat.le_trans hstart ho), Text.without_append, hlen, hgone,
    hkept, without_take_of_le_start (Nat.le_refl _), List.nil_append]

/-- Deletions on earlier lines, or before a place on the line, remove the same from all positions
that follow that place on its line. -/
lemma removedBefore_congr {g : Fix} {p q : Position}
    (hg : g.range.start.line = g.range.stop.line)
    (hordered : g.range.start.character ≤ g.range.stop.character)
    (hle : g.range.stop ≤ p) (hline : q.line = p.line) (hchar : p.character ≤ q.character) :
    g.removedBefore q = g.removedBefore p := by
  rcases hle with hlt | ⟨heq, hstop⟩
  · rw [Fix.removedBefore_eq_zero (Or.inl (by omega)), Fix.removedBefore_eq_zero (Or.inl (by omega))]
  · rw [Fix.removedBefore_of_le (by omega) (by omega),
      Fix.removedBefore_of_le (by omega) (by omega)]
    omega

/-- A deletion removes from a position that follows it what it deletes, and from a position inside it
what it deletes so far. -/
lemma Fix.DeletesIn.removedBefore_eq (h : f.DeletesIn s) {o : Nat} (hstart : f.startIn s ≤ o)
    {p : Position} (hline : p.line = f.range.start.line)
    (hchar : p.character = f.range.start.character
      + Text.units (s.text.slice (f.startIn s) (min (f.stopIn s) o))
      + Text.units (s.text.slice (min (f.stopIn s) o) o)) :
    f.removedBefore p = Text.units (s.text.slice (f.startIn s) (min (f.stopIn s) o)) := by
  have hstop := h.endPosition_take_min h.startIn_le_stopIn
  rw [Nat.min_self, ← h.stop_eq] at hstop
  rw [Fix.removedBefore_of_le hline.symm (by omega), hstop, hchar]
  simp only [Position.shifted]
  rcases Nat.le_total (f.stopIn s) o with hle | hle
  · rw [Nat.min_eq_left hle]
    omega
  · have hsplit := Text.slice_append_slice s.text hstart hle
    rw [Nat.min_eq_right hle, Text.slice_eq_nil s.text (Nat.le_refl o), ← hsplit,
      Text.units_append, Text.units_nil]
    omega

end

/-- **The position in the text that is left.**  The applied deletions come last in the file first.
At the end of some beginning of the text without them stands the position that the text itself has
there, moved past the deletions. -/
lemma endPosition_without (s : Snapshot) : ∀ fs : List Fix, (∀ f ∈ fs, f.DeletesIn s) →
    fs.Pairwise (fun a b => b.stopIn s ≤ a.startIn s) → ∀ o ≤ s.text.length,
      Text.endPosition (Text.without (deletedBy s fs) 0 (s.text.take o))
        = (Text.endPosition (s.text.take o)).pastDeletions fs
  | [], _, _, o, _ => by
      have hself : Text.without (deletedBy s []) 0 (s.text.take o) = s.text.take o :=
        Text.without_eq_self _ _ fun _ _ _ => rfl
      rw [hself, Position.pastDeletions_nil]
  | f :: fs, hdel, hapart, o, ho => by
      have hf := hdel f List.mem_cons_self
      have hfs : ∀ g ∈ fs, g.DeletesIn s := fun g hg => hdel g (List.mem_cons_of_mem f hg)
      obtain ⟨hfirst, hrest⟩ := List.pairwise_cons.mp hapart
      have hlen : f.startIn s ≤ s.text.length := s.offset_le_length _
      have hle := hf.startIn_le_stopIn
      have ih := endPosition_without s fs hfs hrest
      rcases Nat.le_total o (f.startIn s) with hbefore | hstart
      · -- The position is not behind the start of the last deletion.
        rw [without_take_of_le_start hbefore, ih o ho]
        have hpos := Text.endPosition_le s.text hbefore hlen
        rw [← hf.start_eq] at hpos
        have hzero : f.removedBefore (Text.endPosition (s.text.take o)) = 0 := by
          refine Fix.removedBefore_eq_zero ?_
          rcases hpos with hlt | ⟨-, hchar⟩
          · exact Or.inl (by omega)
          · exact Or.inr ⟨hchar, hf.ordered⟩
        rw [Position.pastDeletions, Position.pastDeletions, Position.removedBy, hzero, Int.zero_add]
      · -- The text before it is what the others leave before the last deletion, and a piece behind.
        rw [without_take_of_start_le hle hfirst hstart ho]
        have hearlier : ∀ g ∈ fs, g.range.stop ≤ f.range.start := by
          intro g hg
          rw [(hfs g hg).stop_eq, hf.start_eq]
          exact Text.endPosition_le s.text (hfirst g hg) hlen
        have hleft := ih (f.startIn s) hlen
        rw [← hf.start_eq] at hleft
        have hmid := hf.endPosition_take_min hstart
        have htake := Text.take_append_slice s.text (Nat.min_le_right (f.stopIn s) o)
        rw [← htake]
        generalize hrest' : s.text.slice (min (f.stopIn s) o) o = behind
        by_cases hnewline : '\n' ∈ behind
        · -- On a later line than all deletions nothing moves.
          have hpos : 0 < behind.count '\n' := List.count_pos_iff.mpr hnewline
          rw [Text.endPosition_append_of_mem hnewline, hleft, Text.endPosition_append_of_mem hnewline,
            hmid]
          symm
          refine Position.pastDeletions_eq_self fun g hg => ?_
          simp only [Position.shifted, Text.line_endPosition]
          rcases List.mem_cons.mp hg with rfl | hg
          · omega
          · have hline := (hfs g hg).oneLine
            rcases hearlier g hg with hlt | ⟨heq, -⟩ <;> omega
        · -- On the line of the last deletion, what it deletes is taken away as well.
          rw [Text.endPosition_append hnewline, hleft, Text.endPosition_append hnewline, hmid]
          set p := (f.range.start.shifted
            (Text.units (s.text.slice (f.startIn s) (min (f.stopIn s) o)))).shifted behind.units
            with hp
          have hself : f.removedBefore p
              = Text.units (s.text.slice (f.startIn s) (min (f.stopIn s) o)) := by
            refine hf.removedBefore_eq hstart rfl ?_
            rw [hrest', hp]
            rfl
          have hothers : p.removedBy fs = f.range.start.removedBy fs := by
            refine Position.removedBy_congr fun g hg => ?_
            refine removedBefore_congr (hfs g hg).oneLine (hfs g hg).ordered (hearlier g hg) rfl ?_
            rw [hp]
            simp only [Position.shifted]
            omega
          rw [Position.pastDeletions, Position.pastDeletions, Position.removedBy, hself, hothers, hp]
          simp only [Position.shifted]
          congr 1
          omega

/-! ## The whole batch -/

/-- Deletions may lie anywhere, as long as none of them ends before it starts: the content after
them is the text without what the applied ones cover. -/
lemma content_eq_without_of_ordered {s : Snapshot} {fixes : List Fix}
    (hnew : ∀ f ∈ fixes, f.newText = []) (hle : ∀ f ∈ fixes, f.startIn s ≤ f.stopIn s) :
    (applyFixes s fixes).content
      = Text.without (deletedBy s (applyFixes s fixes).applied) 0 s.text := by
  have hreached := reached_applyFixes s fixes hle
  have hparts := replaceParts_eq_without s 0 (applyFixes s fixes).applied.reverse
    (fun f hf => by
      have hmem := mem_of_mem_applied hle (List.mem_reverse.mp hf)
      exact ⟨hnew f hmem, Nat.zero_le _, hle f hmem⟩)
    (List.pairwise_reverse.mpr hreached.apart)
  have hany : deletedBy s (applyFixes s fixes).applied.reverse
      = deletedBy s (applyFixes s fixes).applied := by
    funext i
    rw [deletedBy, deletedBy, List.any_reverse]
  rw [hany] at hparts
  exact hreached.content_eq.trans hparts

section

variable {s : Snapshot} {fixes : List Fix} (h : ∀ f ∈ fixes, f.DeletesIn s)

include h

lemma deletesIn_of_mem_applied {f : Fix} (hf : f ∈ (applyFixes s fixes).applied) :
    f.DeletesIn s :=
  h f (mem_of_mem_applied (fun g hg => (h g hg).startIn_le_stopIn) hf)

/-- **The content after a batch of deletions is the text without what the applied ones cover.** -/
lemma content_eq_without : (applyFixes s fixes).content
    = Text.without (deletedBy s (applyFixes s fixes).applied) 0 s.text :=
  content_eq_without_of_ordered (fun f hf => (h f hf).newText_eq)
    fun f hf => (h f hf).startIn_le_stopIn

/-- What is left before an index is a beginning of the new content. -/
lemma content_eq_append (o : Nat) (ho : o ≤ s.text.length) : (applyFixes s fixes).content
    = Text.without (deletedBy s (applyFixes s fixes).applied) 0 (s.text.take o)
      ++ Text.without (deletedBy s (applyFixes s fixes).applied) o (s.text.drop o) := by
  have happend := Text.without_take_append (deletedBy s (applyFixes s fixes).applied) s.text
    (s.text.drop o) ho
  rwa [List.take_append_drop, ← content_eq_without h] at happend

/-- **A moved position resolves to what is left before it.** -/
lemma offset_pastDeletions {p : Position} (hp : s.Admits p) :
    (Snapshot.ofText (applyFixes s fixes).content).offset
        (p.pastDeletions (applyFixes s fixes).applied)
      = (Text.without (deletedBy s (applyFixes s fixes).applied) 0
          (s.text.take (s.offset p))).length := by
  have hreached := reached_applyFixes s fixes fun g hg => (h g hg).startIn_le_stopIn
  have hpos := endPosition_without s (applyFixes s fixes).applied
    (fun f hf => deletesIn_of_mem_applied h hf) hreached.apart (s.offset p) (s.offset_le_length p)
  rw [← Snapshot.eq_endPosition_of_admits hp] at hpos
  rw [← hpos, content_eq_append h (s.offset p) (s.offset_le_length p)]
  exact Snapshot.offset_endPosition_append _ _

/-- Two beginnings of the text, without the deletions, and what is left between them. -/
lemma slice_content {a b : Nat} (ha : a ≤ s.text.length) (hb : b ≤ s.text.length) :
    Text.slice (applyFixes s fixes).content
        (Text.without (deletedBy s (applyFixes s fixes).applied) 0 (s.text.take a)).length
        (Text.without (deletedBy s (applyFixes s fixes).applied) 0 (s.text.take b)).length
      = Text.without (deletedBy s (applyFixes s fixes).applied) a (s.text.slice a b) := by
  set gone := deletedBy s (applyFixes s fixes).applied
  have hbegin : (applyFixes s fixes).content.take (Text.without gone 0 (s.text.take b)).length
      = Text.without gone 0 (s.text.take b) := by
    rw [content_eq_append h b hb, List.take_left]
  -- Of two beginnings, the longer one goes on where the shorter one ends.
  have hlonger : ∀ {i j : Nat}, i ≤ j → i ≤ s.text.length →
      Text.without gone 0 (s.text.take j)
        = Text.without gone 0 (s.text.take i) ++ Text.without gone i (s.text.slice i j) := by
    intro i j hij hi
    rw [← Text.take_append_slice s.text hij, Text.without_take_append gone s.text _ hi]
  rw [Text.slice, hbegin]
  rcases Nat.le_total a b with hab | hba
  · rw [hlonger hab ha, List.drop_left]
  · rw [Text.slice_eq_nil s.text hba, hlonger hba hb,
      List.drop_eq_nil_of_le (by rw [List.length_append]; omega)]
    rfl

end

/-- The length of what is left before an index, and the deleted characters before it. -/
lemma length_without_take {s : Snapshot} (gone : Nat → Bool) {o : Nat} (ho : o ≤ s.text.length) :
    (Text.without gone 0 (s.text.take o)).length + (List.range o).countP gone = o := by
  have hlen := Text.length_without_add gone 0 (s.text.take o)
  rwa [List.length_take, Nat.min_eq_left ho, ← List.range_eq_range'] at hlen

namespace Diagnostic

/-- **A diagnostic that has followed a batch of deletions.**  The text that it covers is what was
left of the text that it covered, its ends lie as much further to the front as characters were
deleted before them, and all else about it is the same. -/
structure Follows (s : Snapshot) (r : Applied) (before after : Diagnostic) : Prop where
  text : (Snapshot.ofText r.content).textAt after.range
    = Text.without (deletedBy s r.applied) (s.offset before.range.start) (s.textAt before.range)
  start : (Snapshot.ofText r.content).offset after.range.start
    + (List.range (s.offset before.range.start)).countP (deletedBy s r.applied)
      = s.offset before.range.start
  stop : (Snapshot.ofText r.content).offset after.range.stop
    + (List.range (s.offset before.range.stop)).countP (deletedBy s r.applied)
      = s.offset before.range.stop
  rest : after = before.withRange after.range

end Diagnostic

/-- **Moving a diagnostic commutes with deleting.**  It may lie on a line with deletions or not,
before, behind, across or inside them. -/
theorem pastFixes_follows (s : Snapshot) (fixes : List Fix) (h : ∀ f ∈ fixes, f.DeletesIn s)
    (d : Diagnostic) (hstart : s.Admits d.range.start) (hstop : s.Admits d.range.stop) :
    d.Follows s (applyFixes s fixes) (d.pastFixes (applyFixes s fixes).applied) := by
  have hfilter : (applyFixes s fixes).applied.filter Fix.isLineDeletion
      = (applyFixes s fixes).applied :=
    List.filter_eq_self.mpr fun f hf => (deletesIn_of_mem_applied h hf).isLineDeletion
  have hrange : (d.pastFixes (applyFixes s fixes).applied).range
      = ⟨d.range.start.pastDeletions (applyFixes s fixes).applied,
        d.range.stop.pastDeletions (applyFixes s fixes).applied⟩ := by
    rw [Diagnostic.pastFixes, hfilter]
    rfl
  have hlen := s.offset_le_length
  refine { text := ?_, start := ?_, stop := ?_, rest := rfl }
  · rw [hrange, Snapshot.textAt, offset_pastDeletions h hstart, offset_pastDeletions h hstop]
    exact slice_content h (hlen _) (hlen _)
  · rw [hrange, offset_pastDeletions h hstart]
    exact length_without_take _ (hlen _)
  · rw [hrange, offset_pastDeletions h hstop]
    exact length_without_take _ (hlen _)

/-- Two instantiations on one line, one of them reported twice, with a character that takes two code
units. -/
def nestedInstantiations : Snapshot := .ofText "f<😀>(g<T>(x))\nz"

/-- The deletions of the instantiations; the second one overlaps the third. -/
def instantiationDeletions : List Fix :=
  [{ range := .ofCoords 0 1 0 5, newText := [], code := "M0223" },
   { range := .ofCoords 0 7 0 10, newText := [], code := "M0223" },
   { range := .ofCoords 0 8 0 10, newText := [], code := "M0223" }]

theorem pastFixes_follows_nested :
    (∀ f ∈ instantiationDeletions, f.DeletesIn nestedInstantiations) ∧
      (applyFixes nestedInstantiations instantiationDeletions).content
        = "f(g<(x))\nz".toList ∧
      nestedInstantiations.Admits ⟨0, 6⟩ ∧ nestedInstantiations.Admits ⟨1, 1⟩ ∧
      Diagnostic.Follows nestedInstantiations
        (applyFixes nestedInstantiations instantiationDeletions)
        ⟨"A.mo", .ofCoords 0 6 1 1, "M0236", "m", .warning⟩
        ⟨"A.mo", .ofCoords 0 2 1 1, "M0236", "m", .warning⟩ :=
  ⟨by decide, by decide, by decide, by decide,
    pastFixes_follows nestedInstantiations instantiationDeletions (by decide)
      ⟨"A.mo", .ofCoords 0 6 1 1, "M0236", "m", .warning⟩ (by decide) (by decide)⟩

end Amend
