import Amend.Proofs.Arguments
import Amend.Proofs.Places
import Amend.Rule.ImplicitArgument
import Mathlib.Data.List.TakeWhile

/-!
# What goes with a redundant argument

The rule for redundant arguments deletes more than the range that was reported: the comma next to
the argument, blanks, whole lines.  It finds them by looking at single lines and answers with
positions.  Here the same is said about the text before the argument and the text behind it.

**The line around a place.**  Where a text is cut in two, the line through the cut is the last line
of the first part and the first line of the second (`lineAt_append`), so what the rule looks at can
be told from the two parts.

**The comma.**  `separatorAfter` and `separatorBefore` are the commas that can go with an argument,
together with the gaps around them.  `withComma_eq` says which of them does.

**The whole deletion.**  `Takes` relates a deletion to the text that it takes away before and behind
the argument: blanks, and at most one comma.  There are three ways in which a deletion can end, one
lemma for each, and `takes_argumentRange` puts them together.
-/

namespace Amend

/-! ## The line around a place -/

namespace Text

/-- The text up to its first line feed. -/
def firstLine (t : Text) : Text := t.takeWhile (· ≠ '\n')

/-- The text behind its last line feed. -/
def lastLine (t : Text) : Text := (t.reverse.takeWhile (· ≠ '\n')).reverse

lemma newline_not_mem_firstLine (t : Text) : '\n' ∉ t.firstLine := fun h => by
  simpa using List.all_eq_true.mp List.all_takeWhile _ h

lemma newline_not_mem_lastLine (t : Text) : '\n' ∉ t.lastLine := fun h => by
  simpa using List.all_eq_true.mp List.all_takeWhile _ (List.mem_reverse.mp h)

lemma firstLine_of_not_mem {t : Text} (h : '\n' ∉ t) : t.firstLine = t := by
  refine List.takeWhile_eq_self_iff.mpr fun c hc => ?_
  exact decide_eq_true fun heq => h (heq ▸ hc)

lemma firstLine_append_newline {l : Text} (h : '\n' ∉ l) (rest : Text) :
    firstLine (l ++ '\n' :: rest) = l := by
  have hline : ∀ c ∈ l, decide (c ≠ '\n') = true :=
    fun c hc => decide_eq_true fun heq => h (heq ▸ hc)
  rw [firstLine, List.takeWhile_append_of_pos hline, List.takeWhile_cons_of_neg (by decide),
    List.append_nil]

lemma lastLine_of_not_mem {t : Text} (h : '\n' ∉ t) : t.lastLine = t := by
  have hreverse := firstLine_of_not_mem fun hmem => h (List.mem_reverse.mp hmem)
  rw [lastLine, ← firstLine, hreverse, List.reverse_reverse]

lemma lastLine_append_newline {l : Text} (h : '\n' ∉ l) (front : Text) :
    lastLine (front ++ '\n' :: l) = l := by
  have hreverse := firstLine_append_newline (fun hmem => h (List.mem_reverse.mp hmem)) front.reverse
  rw [lastLine, ← firstLine]
  simp only [List.reverse_append, List.reverse_cons, List.append_assoc, List.singleton_append]
  rw [hreverse, List.reverse_reverse]

/-- A text is its first line, or goes on behind a line feed. -/
lemma firstLine_cases (t : Text) :
    ('\n' ∉ t ∧ t.firstLine = t) ∨ ∃ rest, t = t.firstLine ++ '\n' :: rest := by
  by_cases h : '\n' ∈ t
  · obtain ⟨l, rest, ht, hl⟩ := List.eq_append_cons_of_mem h
    exact .inr ⟨rest, by rw [ht, firstLine_append_newline hl]⟩
  · exact .inl ⟨h, firstLine_of_not_mem h⟩

lemma drop_firstLine {t rest : Text} (h : t = t.firstLine ++ '\n' :: rest) :
    t.drop t.firstLine.length = '\n' :: rest := by
  have hdrop : (t.firstLine ++ '\n' :: rest).drop t.firstLine.length = '\n' :: rest :=
    List.drop_left
  rwa [← h] at hdrop

/-- Seen from its end, a text is its last line, or stands behind a text and a line feed. -/
lemma lastLine_cases (t : Text) :
    ('\n' ∉ t ∧ t.lastLine = t) ∨ ∃ front, t = front ++ '\n' :: t.lastLine := by
  by_cases h : '\n' ∈ t
  · obtain ⟨l, front, ht, hl⟩ := List.eq_append_cons_of_mem (List.mem_reverse.mpr h)
    have hsplit : t = front.reverse ++ '\n' :: l.reverse := by
      rw [← List.reverse_reverse t, ht]
      simp
    have hlast := lastLine_append_newline (fun hmem => hl (List.mem_reverse.mp hmem)) front.reverse
    exact .inr ⟨front.reverse, by rw [hsplit, hlast]⟩
  · exact .inl ⟨h, lastLine_of_not_mem h⟩

/-- The last line stands at the end, and before it a position at the beginning of a line. -/
lemma exists_append_lastLine (t : Text) :
    ∃ front, t = front ++ t.lastLine ∧ front.endPosition = ⟨t.count '\n', 0⟩ := by
  rcases lastLine_cases t with ⟨hmem, hlast⟩ | ⟨front, ht⟩
  · exact ⟨[], by rw [hlast]; rfl, by rw [List.count_eq_zero_of_not_mem hmem]; rfl⟩
  · refine ⟨front ++ ['\n'], by simpa using ht, ?_⟩
    have hcount : t.count '\n' = front.count '\n' + 1 := by
      rw [ht, List.count_append, List.count_cons_self,
        List.count_eq_zero_of_not_mem t.newline_not_mem_lastLine]
    rw [endPosition_append_newline, hcount]
    simp [endPosition]

lemma endPosition_eq (t : Text) : t.endPosition = ⟨t.count '\n', t.lastLine.units⟩ := by
  rw [endPosition, lastLine, units_reverse]

lemma endPosition_append_eq_iff {a b : Text} : endPosition (a ++ b) = a.endPosition ↔ b = [] := by
  constructor
  · intro h
    have hlength := Snapshot.offset_endPosition_append (a ++ b) []
    rw [h, List.append_nil, Snapshot.offset_endPosition_append, List.length_append] at hlength
    exact List.eq_nil_of_length_eq_zero (by omega)
  · rintro rfl
    rw [List.append_nil]

end Text

namespace Snapshot

lemma lineCount_ofText (t : Text) : (ofText t).lineCount = t.count '\n' + 1 := by
  induction t using Text.line_induction with
  | last l hl => rw [lineCount_last_line hl, List.count_eq_zero_of_not_mem hl]
  | more l rest hl ih =>
      rw [lineCount_next_line hl, ih, List.count_append, List.count_cons_self,
        List.count_eq_zero_of_not_mem hl, Nat.zero_add]

/-- **The line through a cut.** -/
lemma lineAt_append (u v : Text) :
    (ofText (u ++ v)).lineAt (u.count '\n') = u.lastLine ++ v.firstLine := by
  induction u using Text.line_induction with
  | last l hl =>
      rw [List.count_eq_zero_of_not_mem hl, Text.lastLine_of_not_mem hl]
      rcases v.firstLine_cases with ⟨hv, hfirst⟩ | ⟨rest, hv⟩
      · rw [hfirst]
        exact lineAt_last_line (by simp [hl, hv])
      · have hline : '\n' ∉ l ++ v.firstLine := by simp [hl, v.newline_not_mem_firstLine]
        have hsplit : l ++ v = l ++ v.firstLine ++ '\n' :: rest := by
          rw [List.append_assoc, ← hv]
        rw [hsplit]
        exact lineAt_first_line hline rest
  | more l rest hl ih =>
      have hlast : Text.lastLine (l ++ '\n' :: rest) = rest.lastLine := by
        rcases rest.lastLine_cases with ⟨hmem, hrest⟩ | ⟨front, hrest⟩
        · rw [Text.lastLine_append_newline hmem, hrest]
        · have hsplit : l ++ '\n' :: rest = (l ++ '\n' :: front) ++ '\n' :: rest.lastLine := by
            rw [List.append_assoc, List.cons_append, ← hrest]
          rw [hsplit, Text.lastLine_append_newline rest.newline_not_mem_lastLine]
      have hcount : (l ++ '\n' :: rest).count '\n' = rest.count '\n' + 1 := by
        rw [List.count_append, List.count_cons_self, List.count_eq_zero_of_not_mem hl, Nat.zero_add]
      rw [hlast, hcount, List.append_assoc, List.cons_append, Int.natCast_add, Int.natCast_one,
        lineAt_next_line hl, ih]

lemma lineBefore_append (u v : Text) :
    (ofText (u ++ v)).lineBefore u.endPosition.line u.endPosition.character = u.lastLine := by
  have hindex := Text.indexOfUnits_units_append u.lastLine v.firstLine
  rw [lineBefore, Text.endPosition_eq, lineAt_append, Text.indexAt_natCast, hindex,
    List.take_left]

lemma lineAfter_append (u v : Text) :
    (ofText (u ++ v)).lineAfter u.endPosition.line u.endPosition.character = v.firstLine := by
  have hindex := Text.indexOfUnits_units_append u.lastLine v.firstLine
  rw [lineAfter, Text.endPosition_eq, lineAt_append, Text.indexAt_natCast, hindex,
    List.drop_left]

/-- The line below a cut is the first line behind the line feed. -/
lemma lineAt_below (u l below : Text) (hl : '\n' ∉ l) :
    (ofText (u ++ (l ++ '\n' :: below))).lineAt (u.endPosition.line + 1) = below.firstLine := by
  have hcount : (u ++ l ++ ['\n']).count '\n' = u.count '\n' + 1 := by
    simp [List.count_eq_zero_of_not_mem hl]
  have hlast : Text.lastLine (u ++ l ++ ['\n']) = [] :=
    Text.lastLine_append_newline List.not_mem_nil (u ++ l)
  have hline := lineAt_append (u ++ l ++ ['\n']) below
  rw [hcount, hlast, List.nil_append] at hline
  simpa using hline

end Snapshot

namespace Text

/-- Of two beginnings of a text, the one with no fewer code units contains the other. -/
lemma prefix_of_units_le {a b t : Text} (hb : b <+: t) (ha : a <+: t) (h : a.units ≤ b.units) :
    a <+: b := by
  rcases List.prefix_or_prefix_of_prefix ha hb with hab | ⟨rest, rfl⟩
  · exact hab
  · cases rest with
    | nil => simp
    | cons c cs =>
        have hpos := unitsOf_pos c
        rw [units_append, units_cons] at h
        omega

lemma slice_of_append (a b c : Text) :
    slice (a ++ b ++ c) a.length (a ++ b).length = b := by
  rw [slice, List.take_left, List.drop_left]

end Text

/-- The position is behind one of the carriage returns that end its line. -/
def Snapshot.InReturns (s : Snapshot) (p : Position) : Prop :=
  (s.lineAt p.line).dropEndReturns.units < p.character

instance (s : Snapshot) (p : Position) : Decidable (s.InReturns p) :=
  inferInstanceAs (Decidable (((s.lineAt p.line).dropEndReturns.units : Int) < p.character))

/-! ## The comma next to an argument -/

namespace Rule

lemma isBlank_of_isGap {c : Char} (h : isGap c) : isBlank c := by
  rw [isGap, Bool.or_eq_true, beq_iff_eq, beq_iff_eq] at h
  rcases h with rfl | rfl <;> decide

/-- A comma behind gaps is found, with the gaps that follow it. -/
lemma commaAhead?_append {g : Text} (hg : ∀ c ∈ g, isGap c) (rest : Text) :
    commaAhead? (g ++ ',' :: rest) = some (g ++ ',' :: rest.takeWhile isGap) := by
  have htake : (g ++ ',' :: rest).takeWhile isGap = g := by
    rw [List.takeWhile_append_of_pos hg, List.takeWhile_cons_of_neg (by decide), List.append_nil]
  have hdrop : (g ++ ',' :: rest).dropWhile isGap = ',' :: rest := by
    rw [List.dropWhile_append_of_pos hg, List.dropWhile_cons_of_neg (by decide)]
  simp only [commaAhead?, hdrop, htake]

/-- Another character behind the gaps hides what follows it. -/
lemma commaAhead?_eq_none {g : Text} (hg : ∀ c ∈ g, isGap c) {c : Char} (hgap : ¬ isGap c)
    (hcomma : c ≠ ',') (rest : Text) : commaAhead? (g ++ c :: rest) = none := by
  have hdrop : (g ++ c :: rest).dropWhile isGap = c :: rest := by
    rw [List.dropWhile_append_of_pos hg, List.dropWhile_cons_of_neg hgap]
  rw [commaAhead?, hdrop]
  split
  · next heq => exact absurd (List.cons_eq_cons.mp heq).1 hcomma
  · rfl

lemma of_commaAhead? {t comma : Text} (h : commaAhead? t = some comma) :
    ∃ g back rest, t = g ++ ',' :: back ++ rest ∧ comma = g ++ ',' :: back ∧
      (∀ c ∈ g, isGap c) ∧ ∀ c ∈ back, isGap c := by
  rw [commaAhead?] at h
  split at h
  · next rest hdrop =>
    cases h
    refine ⟨_, _, rest.dropWhile isGap, ?_, rfl, List.all_eq_true.mp List.all_takeWhile,
      List.all_eq_true.mp List.all_takeWhile⟩
    rw [List.append_assoc, List.cons_append, List.takeWhile_append_dropWhile, ← hdrop,
      List.takeWhile_append_dropWhile]
  · cases h

lemma newline_not_mem_comma {v comma : Text} (h : commaAhead? v.firstLine = some comma) :
    '\n' ∉ comma := by
  obtain ⟨g, back, rest, hline, rfl, -, -⟩ := of_commaAhead? h
  intro hmem
  apply v.newline_not_mem_firstLine
  rw [hline]
  exact List.mem_append_left _ hmem

/-- A comma before gaps is found. -/
lemma commaBehind?_append {g : Text} (hg : ∀ c ∈ g, isGap c) (front : Text) :
    commaBehind? (front ++ ',' :: g) = some (front, ',' :: g) := by
  have hg' : ∀ c ∈ g.reverse, isGap c := fun c hc => hg c (List.mem_reverse.mp hc)
  have hreverse : (front ++ ',' :: g).reverse = g.reverse ++ ',' :: front.reverse := by simp
  have htake : (front ++ ',' :: g).reverse.takeWhile isGap = g.reverse := by
    rw [hreverse, List.takeWhile_append_of_pos hg', List.takeWhile_cons_of_neg (by decide),
      List.append_nil]
  have hdrop : (front ++ ',' :: g).reverse.dropWhile isGap = ',' :: front.reverse := by
    rw [hreverse, List.dropWhile_append_of_pos hg', List.dropWhile_cons_of_neg (by decide)]
  rw [commaBehind?, hdrop, htake]
  simp

lemma commaBehind?_eq_none {g : Text} (hg : ∀ c ∈ g, isGap c) {c : Char} (hgap : ¬ isGap c)
    (hcomma : c ≠ ',') (front : Text) : commaBehind? (front ++ c :: g) = none := by
  have hg' : ∀ c ∈ g.reverse, isGap c := fun c hc => hg c (List.mem_reverse.mp hc)
  have hdrop : (front ++ c :: g).reverse.dropWhile isGap = c :: front.reverse := by
    have hreverse : (front ++ c :: g).reverse = g.reverse ++ c :: front.reverse := by simp
    rw [hreverse, List.dropWhile_append_of_pos hg', List.dropWhile_cons_of_neg hgap]
  rw [commaBehind?, hdrop]
  split
  · next heq => exact absurd (List.cons_eq_cons.mp heq).1 hcomma
  · rfl

lemma of_commaBehind? {t front comma : Text} (h : commaBehind? t = some (front, comma)) :
    t = front ++ comma ∧ ∃ g, comma = ',' :: g ∧ ∀ c ∈ g, isGap c := by
  rw [commaBehind?] at h
  split at h
  · next before hdrop =>
    cases h
    refine ⟨?_, _, rfl, fun c hc => ?_⟩
    · have hsplit := List.takeWhile_append_dropWhile (p := isGap) (l := t.reverse)
      rw [hdrop] at hsplit
      simpa using congrArg List.reverse hsplit.symm
    · exact List.all_eq_true.mp List.all_takeWhile c (List.mem_reverse.mp hc)
  · cases h

/-- The comma behind an argument that goes with it: on the same line, or at the beginning of the
next one if nothing else follows on this. -/
def separatorAfter (v : Text) : Text :=
  match commaAhead? v.firstLine with
  | some comma => comma
  | none =>
    if v.firstLine.isBlankText then
      match v.drop v.firstLine.length with
      | [] => []
      | _ :: below =>
        match commaAhead? (Text.firstLine below) with
        | some comma => v.firstLine ++ '\n' :: comma
        | none => []
    else []

/-- The comma directly before an argument. -/
def separatorBefore (u : Text) : Text :=
  match commaBehind? u.lastLine with
  | some (_, comma) => comma
  | none => []

/-- **The end of the deletion.** -/
lemma stopPastComma_eq (u v : Text) :
    stopPastComma (.ofText (u ++ v)) u.endPosition = Text.endPosition (u ++ separatorAfter v) := by
  simp only [stopPastComma, separatorAfter, Snapshot.lineAfter_append]
  cases hahead : commaAhead? v.firstLine with
  | some comma => exact (Text.endPosition_append (newline_not_mem_comma hahead) u).symm
  | none =>
      dsimp only
      by_cases hblank : v.firstLine.isBlankText
      · rcases v.firstLine_cases with ⟨hmem, hfirst⟩ | ⟨below, hv⟩
        · have hlast : ¬ (u.endPosition.line + 1 < (Snapshot.ofText (u ++ v)).lineCount) := by
            rw [Snapshot.lineCount_ofText, List.count_append, List.count_eq_zero_of_not_mem hmem,
              Text.line_endPosition]
            omega
          have hdrop : v.drop v.firstLine.length = [] := by rw [hfirst, List.drop_length]
          simp only [hlast, hdrop, decide_false, Bool.and_false, Bool.false_eq_true, if_false,
            ite_self, List.append_nil]
        · have hmem := v.newline_not_mem_firstLine
          have hbelow : (Snapshot.ofText (u ++ v)).lineAt (u.endPosition.line + 1)
              = Text.firstLine below := by
            have hline := Snapshot.lineAt_below u v.firstLine below hmem
            rwa [← hv] at hline
          have hmore : u.endPosition.line + 1 < (Snapshot.ofText (u ++ v)).lineCount := by
            have hcount : 0 < v.count '\n' := List.count_pos_iff.mpr (by rw [hv]; simp)
            rw [Snapshot.lineCount_ofText, List.count_append, Text.line_endPosition]
            omega
          have hdrop := Text.drop_firstLine hv
          simp only [hblank, hmore, hbelow, hdrop, decide_true, Bool.and_self, if_true]
          cases hnext : commaAhead? (Text.firstLine below) with
          | none => simp
          | some comma =>
              have hcomma := newline_not_mem_comma hnext
              dsimp only
              rw [← List.append_assoc, Text.endPosition_append_newline,
                Text.endPosition_append hmem, Text.endPosition_of_not_mem hcomma]
              simp [Position.shifted]
      · simp [hblank]

/-- **The start of the deletion.** -/
lemma startBeforeComma_eq (u v : Text) : ∃ w, u = w ++ separatorBefore u ∧
    startBeforeComma (.ofText (u ++ v)) u.endPosition = w.endPosition := by
  simp only [startBeforeComma, separatorBefore, Snapshot.lineBefore_append]
  cases hbehind : commaBehind? u.lastLine with
  | none => exact ⟨u, by simp, rfl⟩
  | some found =>
      obtain ⟨front, comma⟩ := found
      obtain ⟨hline, -⟩ := of_commaBehind? hbehind
      obtain ⟨above, hu, -⟩ := u.exists_append_lastLine
      have hmem : '\n' ∉ comma := fun h => u.newline_not_mem_lastLine <| by
        rw [hline]
        exact List.mem_append_right _ h
      have hsplit : u = above ++ front ++ comma := by rw [List.append_assoc, ← hline, ← hu]
      refine ⟨above ++ front, hsplit, ?_⟩
      have hposition := Text.endPosition_append hmem (above ++ front)
      rw [← hsplit] at hposition
      rw [hposition]
      simp only [Position.shifted, Int.add_neg_cancel_right]

lemma separatorBefore_cases (u : Text) :
    separatorBefore u = [] ∨ ∃ g, separatorBefore u = ',' :: g ∧ ∀ c ∈ g, isGap c := by
  rw [separatorBefore]
  split
  · next hbehind => exact .inr (of_commaBehind? hbehind).2
  · exact .inl rfl

/-- What goes with the argument behind it, if anything does, is one comma among blanks. -/
lemma separatorAfter_cases (v : Text) :
    separatorAfter v = [] ∨ ∃ front back z, v = front ++ ',' :: back ++ z ∧
      separatorAfter v = front ++ ',' :: back ∧ (∀ c ∈ front, isBlank c) ∧
      ∀ c ∈ back, isBlank c := by
  have hgaps : ∀ {g : Text}, (∀ c ∈ g, isGap c) → ∀ c ∈ g, isBlank c :=
    fun hg c hc => isBlank_of_isGap (hg c hc)
  rcases v.firstLine_cases with ⟨hmem, hfirst⟩ | ⟨below, hv⟩
  · rw [separatorAfter, hfirst]
    cases hahead : commaAhead? v with
    | none => simp
    | some comma =>
        obtain ⟨g, back, rest, hline, rfl, hg, hback⟩ := of_commaAhead? hahead
        exact .inr ⟨g, back, rest, hline, rfl, hgaps hg, hgaps hback⟩
  · rw [separatorAfter, Text.drop_firstLine hv]
    cases hahead : commaAhead? v.firstLine with
    | some comma =>
        obtain ⟨g, back, rest, hline, rfl, hg, hback⟩ := of_commaAhead? hahead
        refine .inr ⟨g, back, rest ++ '\n' :: below, ?_, rfl, hgaps hg, hgaps hback⟩
        rw [← List.append_assoc, ← hline, ← hv]
    | none =>
        dsimp only
        by_cases hblank : v.firstLine.isBlankText
        · rw [if_pos hblank]
          cases hnext : commaAhead? (Text.firstLine below) with
          | none => simp
          | some comma =>
              obtain ⟨g, back, rest, hline, rfl, hg, hback⟩ := of_commaAhead? hnext
              have hbelow : ∃ z, below = g ++ ',' :: back ++ z := by
                rcases Text.firstLine_cases below with ⟨-, hself⟩ | ⟨more, hself⟩
                · exact ⟨rest, hself ▸ hline⟩
                · exact ⟨rest ++ '\n' :: more, by rw [← List.append_assoc, ← hline, ← hself]⟩
              obtain ⟨z, hz⟩ := hbelow
              refine .inr ⟨v.firstLine ++ '\n' :: g, back, z, ?_, by simp, ?_, hgaps hback⟩
              · have hsplit : v = v.firstLine ++ '\n' :: (g ++ ',' :: back ++ z) := hz ▸ hv
                simpa using hsplit
              · intro c hc
                rcases List.mem_append.mp hc with hc | hc
                · exact List.all_eq_true.mp hblank c hc
                · rcases List.mem_cons.mp hc with rfl | hc
                  · decide
                  · exact hgaps hg c hc
        · exact .inl (by rw [if_neg hblank])

/-- **The range with its comma.**  The comma behind the argument goes with it, otherwise the one
directly before it. -/
lemma withComma_eq (u x v : Text) : ∃ w a b z, u = w ++ a ∧ v = b ++ z ∧ b = separatorAfter v ∧
    a = (if b = [] then separatorBefore u else []) ∧
    withComma (.ofText (u ++ x ++ v)) ⟨u.endPosition, Text.endPosition (u ++ x)⟩
      = ⟨w.endPosition, Text.endPosition (u ++ x ++ b)⟩ := by
  obtain ⟨z, hz⟩ : ∃ z, v = separatorAfter v ++ z := by
    rcases separatorAfter_cases v with h | ⟨front, back, z, hv, h, -, -⟩
    · exact ⟨v, by simp [h]⟩
    · exact ⟨z, by rw [h]; exact hv⟩
  have hstop := stopPastComma_eq (u ++ x) v
  obtain ⟨w, hu, hstart⟩ := startBeforeComma_eq u (x ++ v)
  rw [← List.append_assoc] at hstart
  simp only [withComma, hstop, Text.endPosition_append_eq_iff]
  by_cases hnone : separatorAfter v = []
  · exact ⟨w, separatorBefore u, separatorAfter v, z, hu, hz, rfl, by rw [if_pos hnone],
      by rw [if_pos hnone, hstart]⟩
  · exact ⟨u, [], separatorAfter v, z, by simp, hz, rfl, by rw [if_neg hnone],
      by rw [if_neg hnone]⟩

/-! ## The whole deletion -/

/-- **What a deletion takes away around an argument** `x`: of the text before it the end `a`, and of
the text behind it the beginning `b`.  These are blanks with at most one comma among them. -/
structure Takes (w a x b z : Text) (q : Range) : Prop where
  start_eq : (Snapshot.ofText (w ++ a ++ x ++ b ++ z)).offset q.start = w.length
  stop_eq : (Snapshot.ofText (w ++ a ++ x ++ b ++ z)).offset q.stop = (w ++ a ++ x ++ b).length
  blank_or_comma : ∀ c ∈ a ++ b, isBlank c ∨ c = ','
  comma_once : (a ++ b).count ',' ≤ 1

lemma standsAlone_eq (w y z : Text) :
    standsAlone (.ofText (w ++ y ++ z)) ⟨w.endPosition, Text.endPosition (w ++ y)⟩
      = (w.lastLine.isBlankText && z.firstLine.isBlankText) := by
  have hbefore := Snapshot.lineBefore_append w (y ++ z)
  rw [← List.append_assoc] at hbefore
  rw [standsAlone, hbefore, Snapshot.lineAfter_append]

lemma count_comma_of_isBlank {t : Text} (h : ∀ c ∈ t, isBlank c) : t.count ',' = 0 :=
  List.count_eq_zero_of_not_mem fun hmem => absurd (h _ hmem) (by decide)

/-- The comma next to an argument is the only one that goes with it. -/
lemma separator_once (u v : Text) {a b : Text} (hb : b = separatorAfter v)
    (ha : a = if b = [] then separatorBefore u else []) :
    (∀ c ∈ a ++ b, isBlank c ∨ c = ',') ∧ (a ++ b).count ',' ≤ 1 := by
  rcases separatorAfter_cases v with h | ⟨front, back, z, -, h, hfront, hback⟩
  · obtain rfl : b = [] := hb.trans h
    rw [if_pos rfl] at ha
    rcases separatorBefore_cases u with hu | ⟨g, hu, hg⟩
    · simp [ha, hu]
    · have hblank : ∀ c ∈ g, isBlank c := fun c hc => isBlank_of_isGap (hg c hc)
      rw [ha, hu, List.append_nil, List.count_cons_self, count_comma_of_isBlank hblank]
      refine ⟨fun c hc => ?_, Nat.le_refl _⟩
      exact (List.mem_cons.mp hc).symm.imp_left (hblank c)
  · have hne : b ≠ [] := by rw [hb, h]; simp
    rw [if_neg hne] at ha
    rw [ha, hb, h, List.nil_append, List.count_append, List.count_cons_self,
      count_comma_of_isBlank hfront, count_comma_of_isBlank hback]
    refine ⟨fun c hc => ?_, Nat.le_refl _⟩
    rcases List.mem_append.mp hc with hc | hc
    · exact .inl (hfront c hc)
    · exact (List.mem_cons.mp hc).symm.imp_left (hback c)

/-- **The comma of an earlier line** stands at the end of the text before the argument, with nothing
but blanks between them. -/
lemma of_commaAbove? {p : Position} : ∀ (n : Nat) (u v : Text), u.count '\n' = n →
    u.lastLine.isBlankText → commaAbove? (.ofText (u ++ v)) n = some p →
      ∃ w a, u = w ++ ',' :: a ∧ p = w.endPosition ∧ ∀ c ∈ a, isBlank c
  | 0, _, _, _, _, h => nomatch h
  | n + 1, u, v, hcount, hblank, h => by
      have hlast : ∀ c ∈ '\n' :: u.lastLine, isBlank c := by
        intro c hc
        rcases List.mem_cons.mp hc with rfl | hc
        · decide
        · exact List.all_eq_true.mp hblank c hc
      -- The line feed before the last line of `u` ends the line that is looked at.
      rcases u.lastLine_cases with ⟨hmem, -⟩ | ⟨front, hu⟩
      · rw [List.count_eq_zero_of_not_mem hmem] at hcount
        cases hcount
      · have hl := u.newline_not_mem_lastLine
        generalize u.lastLine = l at hu hl hlast
        subst hu
        have hfront : front.count '\n' = n := by
          rw [List.count_append, List.count_cons_self, List.count_eq_zero_of_not_mem hl] at hcount
          omega
        rw [List.append_assoc] at h
        have hline : (Snapshot.ofText (front ++ ('\n' :: l ++ v))).lineAt n = front.lastLine := by
          have hline := Snapshot.lineAt_append front ('\n' :: l ++ v)
          rw [hfront] at hline
          simpa [Text.firstLine] using hline
        obtain ⟨returns, hreturns, hall⟩ :=
          Text.exists_append_dropEndWhile (· == '\r') front.lastLine
        have hall' : ∀ c ∈ returns, isBlank c := fun c hc => by
          rw [beq_iff_eq.mp (hall c hc)]
          decide
        rw [commaAbove?, hline] at h
        dsimp only at h
        split at h
        · next hempty =>
          have hblank' : front.lastLine.isBlankText := by
            refine List.all_eq_true.mpr fun c hc => ?_
            rw [hreturns] at hc
            exact (List.mem_append.mp hc).elim (List.all_eq_true.mp hempty c) (hall' c)
          obtain ⟨w, a, hw, hp, ha⟩ := of_commaAbove? n front _ hfront hblank' h
          refine ⟨w, a ++ '\n' :: l, by rw [hw]; simp, hp, fun c hc => ?_⟩
          exact (List.mem_append.mp hc).elim (ha c) (hlast c)
        · obtain ⟨⟨before, comma⟩, hbehind, rfl⟩ := Option.map_eq_some_iff.mp h
          obtain ⟨hkept, g, rfl, hg⟩ := of_commaBehind? hbehind
          obtain ⟨above, habove, hposition⟩ := front.exists_append_lastLine
          have hmem : '\n' ∉ before := fun hmem => front.newline_not_mem_lastLine <| by
            rw [hreturns, ← Text.dropEndReturns, hkept]
            simp [hmem]
          refine ⟨above ++ before, g ++ returns ++ '\n' :: l, ?_, ?_, fun c hc => ?_⟩
          · have hsplit : front = above ++ (before ++ ',' :: g ++ returns) := by
              rw [← hkept, Text.dropEndReturns, ← hreturns, ← habove]
            rw [hsplit]
            simp
          · rw [Text.endPosition_append hmem, hposition, hfront]
            simp [Position.shifted]
          · rcases List.mem_append.mp hc with hc | hc
            · exact (List.mem_append.mp hc).elim (fun hc => isBlank_of_isGap (hg c hc)) (hall' c)
            · exact hlast c hc

section

variable {w a x b z : Text}

/-- The first ending: other text is left on the line, and the comma is all that goes along. -/
lemma takes_beside (hchars : ∀ c ∈ a ++ b, isBlank c ∨ c = ',') (honce : (a ++ b).count ',' ≤ 1) :
    Takes w a x b z ⟨w.endPosition, Text.endPosition (w ++ a ++ x ++ b)⟩ where
  start_eq := by
    have hoffset := Snapshot.offset_endPosition_append w (a ++ x ++ b ++ z)
    simpa only [List.append_assoc] using hoffset
  stop_eq := Snapshot.offset_endPosition_append _ z
  blank_or_comma := hchars
  comma_once := honce

/-- The second ending: only blanks are left, and whole lines go. -/
lemma takes_wholeLines (hchars : ∀ c ∈ a ++ b, isBlank c ∨ c = ',')
    (honce : (a ++ b).count ',' ≤ 1) (hbefore : w.lastLine.isBlankText)
    (hbehind : z.firstLine.isBlankText) : ∃ w' a' b' z', w = w' ++ a' ∧ z = b' ++ z' ∧
      Takes w' (a' ++ a) x (b ++ b') z'
        (wholeLines ⟨w.endPosition, Text.endPosition (w ++ a ++ x ++ b)⟩) := by
  obtain ⟨w', hw, hstart⟩ := w.exists_append_lastLine
  -- The line feed goes with the last line, if there is one.
  obtain ⟨feed, z', hz, hblank, hstop⟩ : ∃ feed z', z = z.firstLine ++ feed ++ z' ∧
      (∀ c ∈ feed, isBlank c) ∧ (Snapshot.ofText (w ++ a ++ x ++ b ++ z)).offset
        ⟨(w ++ a ++ x ++ b).count '\n' + 1, 0⟩
          = (w ++ a ++ x ++ b ++ (z.firstLine ++ feed)).length := by
    rcases z.firstLine_cases with ⟨hmem, hfirst⟩ | ⟨below, hz⟩
    · refine ⟨[], [], by simp [hfirst], by simp, ?_⟩
      rw [hfirst, List.append_nil]
      refine Snapshot.offset_of_count_lt _ _ ?_
      rw [List.count_append, List.count_eq_zero_of_not_mem hmem]
      simp only
      omega
    · have hfeed : ∀ c ∈ ['\n'], isBlank c := by
        intro c hc
        rw [List.mem_singleton.mp hc]
        decide
      refine ⟨['\n'], below, by simpa using hz, hfeed, ?_⟩
      have hposition : Text.endPosition (w ++ a ++ x ++ b ++ (z.firstLine ++ ['\n']))
          = ⟨(w ++ a ++ x ++ b).count '\n' + 1, 0⟩ := by
        rw [← List.append_assoc, Text.endPosition_append_newline,
          Text.endPosition_append z.newline_not_mem_firstLine]
        simp [Text.endPosition, Position.shifted]
      have hoffset := Snapshot.offset_endPosition_append
        (w ++ a ++ x ++ b ++ (z.firstLine ++ ['\n'])) below
      rw [hposition] at hoffset
      rw [← hoffset]
      congr 2
      rw [List.append_assoc _ _ below]
      congr 1
      simpa using hz
  have htext : w' ++ (w.lastLine ++ a) ++ x ++ (b ++ (z.firstLine ++ feed)) ++ z'
      = w ++ a ++ x ++ b ++ z := by
    rw [← List.append_assoc w', ← hw, ← List.append_assoc _ b, List.append_assoc _ _ z', ← hz]
  have hblanks : ∀ c ∈ w.lastLine ++ (z.firstLine ++ feed), isBlank c := by
    intro c hc
    rcases List.mem_append.mp hc with hc | hc
    · exact List.all_eq_true.mp hbefore c hc
    · exact (List.mem_append.mp hc).elim (List.all_eq_true.mp hbehind c) (hblank c)
  have hperm : (w.lastLine ++ a ++ (b ++ (z.firstLine ++ feed))).Perm
      (w.lastLine ++ (z.firstLine ++ feed) ++ (a ++ b)) := by
    have hswap : (a ++ b ++ (z.firstLine ++ feed)).Perm (z.firstLine ++ feed ++ (a ++ b)) :=
      List.perm_append_comm
    simpa using hswap.append_left w.lastLine
  refine ⟨w', w.lastLine, z.firstLine ++ feed, z', hw, hz, ?_, ?_, fun c hc => ?_, ?_⟩
  · have hoffset := Snapshot.offset_endPosition_append w' (w.lastLine ++ (a ++ x ++ b ++ z))
    rw [hstart, ← List.append_assoc, ← hw] at hoffset
    rw [htext]
    change (Snapshot.ofText _).offset ⟨w.count '\n', 0⟩ = _
    simpa only [List.append_assoc] using hoffset
  · rw [htext, ← List.append_assoc w', ← hw, ← List.append_assoc _ b]
    exact hstop
  · rcases List.mem_append.mp (hperm.mem_iff.mp hc) with hc | hc
    · exact .inl (hblanks c hc)
    · exact hchars c hc
  · rw [hperm.count_eq, List.count_append, count_comma_of_isBlank hblanks, Nat.zero_add]
    exact honce

/-- The third ending: the argument goes with the comma of an earlier line, up to the end of its own
line.  Carriage returns at the end of the line stay. -/
lemma takes_commaAbove {p : Position} (hreturns : ¬ (Snapshot.ofText (w ++ x ++ z)).InReturns
      (Text.endPosition (w ++ x)))
    (hbefore : w.lastLine.isBlankText) (hbehind : z.firstLine.isBlankText)
    (hcomma : commaAbove? (.ofText (w ++ x ++ z)) (w.count '\n') = some p) :
    ∃ w' a' b' z', w = w' ++ a' ∧ z = b' ++ z' ∧ Takes w' a' x b' z' ⟨p, ⟨(w ++ x).count '\n',
      ((Snapshot.ofText (w ++ x ++ z)).lineAt ((w ++ x).count '\n')).dropEndReturns.units⟩⟩ := by
  rw [List.append_assoc] at hcomma
  obtain ⟨w', a, hw, rfl, ha⟩ := of_commaAbove? _ w (x ++ z) rfl hbefore hcomma
  rw [Snapshot.InReturns, Text.line_endPosition, Snapshot.lineAt_append] at hreturns
  rw [Snapshot.lineAt_append]
  obtain ⟨returns, hline, -⟩ := Text.exists_append_dropEndWhile (· == '\r')
    (Text.lastLine (w ++ x) ++ z.firstLine)
  rw [← Text.dropEndReturns] at hline
  -- What is left of the line reaches beyond the argument.
  obtain ⟨b, hb⟩ : Text.lastLine (w ++ x)
      <+: Text.dropEndReturns (Text.lastLine (w ++ x) ++ z.firstLine) := by
    refine Text.prefix_of_units_le ⟨returns, hline.symm⟩ (List.prefix_append _ _) ?_
    rw [Text.endPosition_eq] at hreturns
    exact Int.ofNat_le.mp (Int.not_lt.mp hreturns)
  have hfirst : z.firstLine = b ++ returns := by
    rw [← hb, List.append_assoc] at hline
    exact List.append_cancel_left hline
  obtain ⟨z', hz⟩ : ∃ z', z = b ++ z' := by
    rcases z.firstLine_cases with ⟨-, hself⟩ | ⟨rest, hself⟩
    · exact ⟨returns, by rw [← hfirst, hself]⟩
    · exact ⟨returns ++ '\n' :: rest, by rw [← List.append_assoc, ← hfirst, ← hself]⟩
  have hmem : '\n' ∉ b := fun h => z.newline_not_mem_firstLine <| by
    rw [hfirst]
    exact List.mem_append_left _ h
  have hposition : Text.endPosition (w ++ x ++ b) = ⟨(w ++ x).count '\n',
      (Text.dropEndReturns (Text.lastLine (w ++ x) ++ z.firstLine)).units⟩ := by
    rw [Text.endPosition_append hmem, Text.endPosition_eq, ← hb, Text.units_append]
    simp [Position.shifted]
  have hblank : ∀ c ∈ b, isBlank c := fun c hc =>
    List.all_eq_true.mp hbehind c (hfirst ▸ List.mem_append_left _ hc)
  refine ⟨w', ',' :: a, b, z', hw, hz, ?_⟩
  rw [← hposition, hw]
  refine takes_beside (fun c hc => ?_) ?_
  · rcases List.mem_append.mp hc with hc | hc
    · exact (List.mem_cons.mp hc).symm.imp_left (ha c)
    · exact .inl (hblank c hc)
  · rw [List.count_append, List.count_cons_self, count_comma_of_isBlank ha,
      count_comma_of_isBlank hblank]

end

/-- **What the rule takes away around an argument.**  The comma behind the argument is part of it
wherever the rule finds one. -/
lemma takes_argumentRange {u x v : Text}
    (hreturns : ¬ (Snapshot.ofText (u ++ x ++ v)).InReturns (Text.endPosition (u ++ x))) :
    ∃ w a b z, u = w ++ a ∧ v = b ++ z ∧ separatorAfter v <+: b ∧ Takes w a x b z
      (argumentRange (.ofText (u ++ x ++ v)) ⟨u.endPosition, Text.endPosition (u ++ x)⟩) := by
  obtain ⟨w, a, b, z, hu, hv, hb, ha, hwith⟩ := withComma_eq u x v
  obtain ⟨hchars, honce⟩ := separator_once u v hb ha
  have hextended : (⟨w.endPosition, Text.endPosition (u ++ x ++ b)⟩ : Range)
      = ⟨u.endPosition, Text.endPosition (u ++ x)⟩ ↔ a = [] ∧ b = [] := by
    rw [Range.mk.injEq, Text.endPosition_append_eq_iff, hu, eq_comm,
      Text.endPosition_append_eq_iff]
  have halone := standsAlone_eq w (a ++ x ++ b) z
  simp only [← List.append_assoc] at halone
  rw [← hb]
  subst hu hv
  simp only [argumentRange, hwith]
  rw [← List.append_assoc _ b z, halone]
  by_cases hsides : w.lastLine.isBlankText && z.firstLine.isBlankText
  · rw [if_pos hsides]
    obtain ⟨hbefore, hbehind⟩ := Bool.and_eq_true_iff.mp hsides
    have hlines : ∃ w' a' b' z', w ++ a = w' ++ a' ∧ b ++ z = b' ++ z' ∧ b <+: b' ∧
        Takes w' a' x b' z' (wholeLines ⟨w.endPosition, Text.endPosition (w ++ a ++ x ++ b)⟩) := by
      obtain ⟨w', a', b', z', hw, hz, htakes⟩ := takes_wholeLines hchars honce hbefore hbehind
      exact ⟨w', a' ++ a, b ++ b', z', by rw [hw, List.append_assoc], by rw [hz, List.append_assoc],
        List.prefix_append b b', htakes⟩
    by_cases hnone : a = [] ∧ b = []
    · rw [if_pos (hextended.mpr hnone)]
      obtain ⟨rfl, rfl⟩ := hnone
      simp only [List.append_nil, List.nil_append] at hreturns hlines ⊢
      have hline : min w.endPosition.line.toNat (Snapshot.ofText (w ++ x ++ z)).lineCount
          = w.count '\n' := by
        rw [Text.line_endPosition, Int.toNat_natCast, Snapshot.lineCount_ofText, List.count_append,
          List.count_append]
        omega
      rw [hline]
      cases hcomma : commaAbove? (.ofText (w ++ x ++ z)) (w.count '\n') with
      | none => exact hlines
      | some p =>
          obtain ⟨w', a', b', z', hw, hz, htakes⟩ :=
            takes_commaAbove hreturns hbefore hbehind hcomma
          exact ⟨w', a', b', z', hw, hz, List.nil_prefix, htakes⟩
    · rw [if_neg fun heq => hnone (hextended.mp heq)]
      exact hlines
  · rw [if_neg hsides]
    exact ⟨w, a, b, z, rfl, rfl, List.prefix_refl b, takes_beside hchars honce⟩

end Rule

/-! ## Any range of any text -/

namespace Snapshot

variable {s : Snapshot}

/-- A range of a text, by the text before it, in it and behind it. -/
lemma exists_of_range {r : Range} (hstart : s.Admits r.start) (hstop : s.Admits r.stop)
    (hle : r.start ≤ r.stop) : ∃ u x v, s = ofText (u ++ x ++ v) ∧
      r = ⟨u.endPosition, Text.endPosition (u ++ x)⟩ := by
  have htake := s.text.take_append_slice (offset_le_offset hstart.holds hstop.holds hle)
  refine ⟨s.text.take (s.offset r.start), s.text.slice (s.offset r.start) (s.offset r.stop),
    s.text.drop (s.offset r.stop), ?_, ?_⟩
  · rw [htake, List.take_append_drop]
    exact s.eq_ofText
  · rw [htake, ← eq_endPosition_of_admits hstart, ← eq_endPosition_of_admits hstop]

end Snapshot

namespace Edit

/-- What an edit covers before and behind a range. -/
def around (s : Snapshot) (r : Range) (e : Edit) : Text :=
  s.text.slice (s.offset e.range.start) (s.offset r.start) ++
    s.text.slice (s.offset r.stop) (s.offset e.range.stop)

/-- **A deletion of a range and its separator.**  It covers the range, and besides it nothing but
blanks and at most one comma. -/
structure DeletesAround (s : Snapshot) (r : Range) (e : Edit) : Prop where
  deletes : e.isDeletion
  starts : s.offset e.range.start ≤ s.offset r.start
  stops : s.offset r.stop ≤ s.offset e.range.stop
  blank_or_comma : ∀ c ∈ e.around s r, isBlank c ∨ c = ','
  comma_once : (e.around s r).count ',' ≤ 1

end Edit

lemma Rule.Takes.deletesAround {w a x b z : Text} {q : Range} (h : Takes w a x b z q) :
    (Edit.deletion q).DeletesAround (.ofText (w ++ a ++ x ++ b ++ z))
      ⟨Text.endPosition (w ++ a), Text.endPosition (w ++ a ++ x)⟩ := by
  have hstart : (Snapshot.ofText (w ++ a ++ x ++ b ++ z)).offset (Text.endPosition (w ++ a))
      = (w ++ a).length := by
    have hoffset := Snapshot.offset_endPosition_append (w ++ a) (x ++ b ++ z)
    simpa only [List.append_assoc] using hoffset
  have hstop : (Snapshot.ofText (w ++ a ++ x ++ b ++ z)).offset (Text.endPosition (w ++ a ++ x))
      = (w ++ a ++ x).length := by
    have hoffset := Snapshot.offset_endPosition_append (w ++ a ++ x) (b ++ z)
    simpa only [List.append_assoc] using hoffset
  have haround : (Edit.deletion q).around (.ofText (w ++ a ++ x ++ b ++ z))
      ⟨Text.endPosition (w ++ a), Text.endPosition (w ++ a ++ x)⟩ = a ++ b := by
    have hbefore := Text.slice_of_append w a (x ++ b ++ z)
    have hbehind := Text.slice_of_append (w ++ a ++ x) b z
    simp only [Edit.around, Edit.deletion, hstart, hstop, h.start_eq, h.stop_eq]
    simp only [← List.append_assoc] at hbefore
    exact congrArg₂ (· ++ ·) hbefore hbehind
  refine ⟨rfl, ?_, ?_, ?_, ?_⟩
  · rw [hstart, Edit.deletion, h.start_eq, List.length_append]
    omega
  · rw [hstop, Edit.deletion, h.stop_eq]
    simp only [List.length_append]
    omega
  · rw [haround]
    exact h.blank_or_comma
  · rw [haround]
    exact h.comma_once

/-- **A redundant argument takes nothing else along.**  The range may lie anywhere in any text, in a
well-formed call or not; it only must not end behind a carriage return of those that end its line,
which are kept.  What is deleted besides it are blanks and at most one comma. -/
theorem Rule.implicitArgument_deletes_around (s : Snapshot) (d : Diagnostic)
    (hle : d.range.start ≤ d.range.stop) (hstart : s.Admits d.range.start)
    (hstop : s.Admits d.range.stop) (hreturns : ¬ s.InReturns d.range.stop) :
    ∃ edit, implicitArgument.edit? d s = some edit ∧ edit.DeletesAround s d.range := by
  refine ⟨.deletion (argumentRange s d.range), rfl, ?_⟩
  obtain ⟨u, x, v, rfl, hrange⟩ := Snapshot.exists_of_range hstart hstop hle
  rw [hrange] at hreturns ⊢
  obtain ⟨w, a, b, z, rfl, rfl, -, htakes⟩ := takes_argumentRange hreturns
  have haround := htakes.deletesAround
  rwa [List.append_assoc _ b z] at haround

/-- A last argument on a line of its own, below an empty line; the comma ends the line above. -/
def wrappedArgument : Snapshot := .ofText "f(\r\n  '😀',\r\n\r\n  g  \r\n)"

theorem Rule.implicitArgument_deletes_around_wrapped :
    let d : Diagnostic := ⟨"A.mo", .ofCoords 3 2 3 3, "M0237", "redundant", .warning⟩
    ∃ edit, implicitArgument.edit? d wrappedArgument = some edit ∧
      edit.around wrappedArgument d.range = ",\r\n\r\n    ".toList ∧
      edit.DeletesAround wrappedArgument d.range := by
  intro d
  obtain ⟨edit, hedit, hdeletes⟩ := implicitArgument_deletes_around wrappedArgument d (by decide)
    (by decide) (by decide) (by decide)
  refine ⟨edit, hedit, ?_, hdeletes⟩
  cases hedit
  decide

end Amend
