import Amend.Source.Snapshot
import Mathlib.Tactic.Lemma

/-!
# Positions and the text before them

A position of a snapshot can be told from the text before it: the line is the number of line feeds,
and the character is the number of code units since the last of them.  `Text.endPosition` is this
reading.  It says nothing about line tables or indices, so that a change of the text can be followed
on the text before a position alone.

* `Text.line_induction`: to prove something of all texts, prove it of a single line and of a line in
  front of a text.  The table of line starts unrolls along it (`offset_next_line`).
* `offset_endPosition`: the position that is read off the text before an index has that index.
* `Snapshot.Admits`: the position is on a line that exists, between two characters of it or at one
  of its ends.  Such a position is read off the text before it (`eq_endPosition_of_admits`), and what
  is read off a beginning of the text is such a position (`admits_endPosition`).
* `Snapshot.Holds`: the position is on a line that exists and not beyond its end.  The indices of
  such positions are in the order of the positions (`offset_le_offset`).
-/

namespace Amend

/-! ## Positions -/

namespace Position

variable {p q : Position}

lemma le_def : p ≤ q ↔ p.line < q.line ∨ (p.line = q.line ∧ p.character ≤ q.character) := Iff.rfl

lemma line_le_of_le (h : p ≤ q) : p.line ≤ q.line := by
  rw [le_def] at h
  omega

lemma character_le_of_le (h : p ≤ q) (hline : p.line = q.line) : p.character ≤ q.character := by
  rw [le_def] at h
  omega

/-- One line further up, positions are in the same order. -/
lemma le_of_next_line {line line' character character' : Int}
    (h : (⟨line + 1, character⟩ : Position) ≤ ⟨line' + 1, character'⟩) :
    (⟨line, character⟩ : Position) ≤ ⟨line', character'⟩ := by
  rw [le_def] at h ⊢
  simp only at h ⊢
  omega

end Position

/-! ## Code units -/

lemma unitsOf_pos (c : Char) : 0 < unitsOf c := by
  rw [unitsOf]
  split <;> omega

namespace Text

@[simp]
lemma units_reverse (t : Text) : Text.units t.reverse = t.units := by
  induction t with
  | nil => rfl
  | cons c cs ih => rw [List.reverse_cons, units_append, ih, units_cons, units_cons, units_nil]; omega

lemma units_le_of_sublist {a b : Text} (h : a.Sublist b) : units a ≤ units b := by
  induction h with
  | slnil => exact Nat.le_refl _
  | cons c _ ih => rw [units_cons]; omega
  | cons_cons c _ ih => rw [units_cons, units_cons]; omega

@[simp]
lemma indexOfUnits_zero (t : Text) : t.indexOfUnits 0 = 0 := by cases t <;> rfl

lemma indexOfUnits_nil (u : Nat) : indexOfUnits [] u = u := by cases u <;> rfl

/-- The code units of a beginning lead to its end, and further ones from there on. -/
lemma indexOfUnits_append (a b : Text) (u : Nat) :
    Text.indexOfUnits (a ++ b) (a.units + u) = a.length + b.indexOfUnits u := by
  induction a with
  | nil => rw [List.nil_append, units_nil, Nat.zero_add, List.length_nil, Nat.zero_add]
  | cons c cs ih =>
      have hpos := unitsOf_pos c
      obtain ⟨k, hk⟩ : ∃ k, Text.units (c :: cs) + u = k + 1 :=
        ⟨Text.units (c :: cs) + u - 1, by rw [units_cons]; omega⟩
      have hrest : k + 1 - unitsOf c = Text.units cs + u := by
        rw [← hk, units_cons]
        omega
      rw [List.cons_append, hk, indexOfUnits, hrest, ih, List.length_cons]
      omega

lemma indexOfUnits_units_append (a b : Text) :
    Text.indexOfUnits (a ++ b) a.units = a.length := by
  simpa using indexOfUnits_append a b 0

/-- More code units lead no less far. -/
lemma indexOfUnits_mono (t : Text) {u v : Nat} (h : u ≤ v) :
    t.indexOfUnits u ≤ t.indexOfUnits v := by
  induction t generalizing u v with
  | nil => rwa [indexOfUnits_nil, indexOfUnits_nil]
  | cons c cs ih =>
      cases u with
      | zero => simp
      | succ u =>
          obtain ⟨v, rfl⟩ : ∃ k, v = k + 1 := ⟨v - 1, by omega⟩
          have hrest : u + 1 - unitsOf c ≤ v + 1 - unitsOf c := by omega
          simpa only [indexOfUnits, Nat.add_le_add_iff_right] using ih hrest

/-- The scan goes on as if the text that is left were the whole text. -/
lemma scanUnits_eq (u : Int) (t : Text) (index consumed : Nat) :
    scanUnits u index consumed t = index + t.indexOfUnits (u - consumed).toNat := by
  induction t generalizing index consumed with
  | nil => rw [scanUnits, indexOfUnits_nil]
  | cons c cs ih =>
      rw [scanUnits]
      split
      · next hend => rw [Int.toNat_of_nonpos (by omega), indexOfUnits_zero, Nat.add_zero]
      · next hmore =>
        obtain ⟨k, hk⟩ : ∃ k, (u - consumed).toNat = k + 1 :=
          ⟨(u - consumed).toNat - 1, by omega⟩
        have hrest : (u - (consumed + unitsOf c : Nat)).toNat = k + 1 - unitsOf c := by omega
        rw [ih, hk, indexOfUnits, hrest]
        omega

/-- An ASCII character is one code unit. -/
lemma indexOfUnits_of_isAscii {t : Text} (h : t.isAscii) (u : Nat) : t.indexOfUnits u = u := by
  induction t generalizing u with
  | nil => exact indexOfUnits_nil u
  | cons c cs ih =>
      simp only [isAscii, List.all_cons, Bool.and_eq_true, decide_eq_true_eq] at h
      have hunit : unitsOf c = 1 := if_neg (by omega)
      cases u with
      | zero => exact indexOfUnits_zero _
      | succ u => rw [indexOfUnits, hunit, Nat.add_sub_cancel, ih h.2]

/-- The short cuts lead where the count of the code units leads. -/
lemma indexAt_eq (t : Text) (u : Int) : t.indexAt u = t.indexOfUnits u.toNat := by
  rw [indexAt]
  split
  · next hstart => rw [Int.toNat_of_nonpos hstart, indexOfUnits_zero]
  · split
    · next hascii => rw [indexOfUnits_of_isAscii hascii]
    · rw [scanUnits_eq, Nat.zero_add, Int.natCast_zero, Int.sub_zero]

lemma indexAt_natCast (t : Text) (n : Nat) : t.indexAt n = t.indexOfUnits n := by
  rw [indexAt_eq, Int.toNat_natCast]

lemma indexAt_mono (t : Text) {u v : Int} (h : u ≤ v) : t.indexAt u ≤ t.indexAt v := by
  rw [indexAt_eq, indexAt_eq]
  exact indexOfUnits_mono t (Int.toNat_le_toNat h)

/-- The code units of a text lead to its end, and no fewer of them lead beyond it. -/
lemma indexAt_le_length (t : Text) {u : Int} (h : u ≤ t.units) : t.indexAt u ≤ t.length := by
  have hend := indexOfUnits_units_append t []
  rw [List.append_nil] at hend
  calc t.indexAt u ≤ t.indexAt t.units := indexAt_mono t h
    _ = t.length := by rw [indexAt_natCast, hend]

lemma indexAt_units_take (t : Text) {n : Nat} (h : n ≤ t.length) :
    t.indexAt (Text.units (t.take n)) = n := by
  have key := indexOfUnits_units_append (t.take n) (t.drop n)
  rw [List.take_append_drop, List.length_take, Nat.min_eq_left h] at key
  rw [indexAt_natCast]
  exact key

/-! ## The text between two indices -/

/-- The characters from one index up to another. -/
def slice (t : Text) (start stop : Nat) : Text := (t.take stop).drop start

lemma slice_append_drop (t : Text) {i j : Nat} (h : i ≤ j) :
    t.slice i j ++ t.drop j = t.drop i := by
  rw [slice, List.drop_take]
  have hj : t.drop j = (t.drop i).drop (j - i) := by
    rw [List.drop_drop]
    congr 1
    omega
  rw [hj, List.take_append_drop]

lemma slice_append_slice (t : Text) {i j k : Nat} (hij : i ≤ j) (hjk : j ≤ k) :
    t.slice i j ++ t.slice j k = t.slice i k := by
  have h := slice_append_drop (t.take k) hij
  rwa [slice, List.take_take, Nat.min_eq_left hjk] at h

lemma take_append_slice (t : Text) {i j : Nat} (h : i ≤ j) : t.take i ++ t.slice i j = t.take j :=
  slice_append_slice t (Nat.zero_le i) h

lemma slice_eq_nil (t : Text) {i j : Nat} (h : j ≤ i) : t.slice i j = [] := by
  rw [slice, List.drop_eq_nil_of_le]
  rw [List.length_take]
  omega

lemma length_slice (t : Text) {i j : Nat} (hj : j ≤ t.length) : (t.slice i j).length = j - i := by
  rw [slice, List.length_drop, List.length_take, Nat.min_eq_left hj]

/-! ## Lines -/

lemma lines_of_not_mem {l : Text} (h : '\n' ∉ l) : l.lines = [l] := splitOn_of_not_mem h

lemma lines_append_newline {l : Text} (h : '\n' ∉ l) (rest : Text) :
    lines (l ++ '\n' :: rest) = l :: rest.lines := List.splitOn_append_cons_self_of_not_mem h rest

/-- **Induction on lines.**  A text is a single line, or a line in front of a text. -/
@[elab_as_elim]
lemma line_induction {P : Text → Prop} (last : ∀ l : Text, '\n' ∉ l → P l)
    (more : ∀ l rest : Text, '\n' ∉ l → P rest → P (l ++ '\n' :: rest)) (t : Text) : P t := by
  -- What has been read of the present line is kept in front of the rest.
  have key : ∀ rest l : Text, '\n' ∉ l → P (l ++ rest) := by
    intro rest
    induction rest with
    | nil => intro l hl; simpa using last l hl
    | cons c cs ih =>
        intro l hl
        by_cases hc : c = '\n'
        · subst hc
          exact more l cs hl (by simpa using ih [] List.not_mem_nil)
        · have hlc : '\n' ∉ l ++ [c] := by simp [hl, Ne.symm hc]
          simpa using ih (l ++ [c]) hlc
  exact key t [] List.not_mem_nil

/-! ## The position at the end of a text -/

/-- The position after a text: its line feeds, and the code units since the last of them. -/
def endPosition (before : Text) : Position :=
  ⟨before.count '\n', Text.units (before.reverse.takeWhile (· ≠ '\n'))⟩

@[simp]
lemma line_endPosition (t : Text) : t.endPosition.line = t.count '\n' := rfl

/-- Text without a line feed moves the position along its line. -/
lemma endPosition_append {b : Text} (h : '\n' ∉ b) (a : Text) :
    endPosition (a ++ b) = a.endPosition.shifted b.units := by
  have hline : (a ++ b).count '\n' = a.count '\n' := by
    rw [List.count_append, List.count_eq_zero_of_not_mem h, Nat.add_zero]
  have hall : ∀ c ∈ b.reverse, decide (c ≠ '\n') = true := by
    intro c hc
    rw [List.mem_reverse] at hc
    exact decide_eq_true fun heq => h (heq ▸ hc)
  have hunits : Text.units ((a ++ b).reverse.takeWhile (· ≠ '\n'))
      = Text.units (a.reverse.takeWhile (· ≠ '\n')) + b.units := by
    rw [List.reverse_append, List.takeWhile_append_of_pos hall, units_append, units_reverse,
      Nat.add_comm]
  rw [endPosition, hline, hunits]
  simp [endPosition, Position.shifted]

lemma endPosition_of_not_mem {l : Text} (h : '\n' ∉ l) : l.endPosition = ⟨0, l.units⟩ := by
  have key := endPosition_append h []
  simpa [endPosition, Position.shifted] using key

/-- After a line feed, the characters are counted anew. -/
lemma endPosition_append_newline (a b : Text) :
    endPosition (a ++ '\n' :: b)
      = ⟨a.endPosition.line + 1 + b.endPosition.line, b.endPosition.character⟩ := by
  have hline : (a ++ '\n' :: b).count '\n' = a.count '\n' + 1 + b.count '\n' := by
    rw [List.count_append, List.count_cons_self]
    omega
  have hwhile : (a ++ '\n' :: b).reverse.takeWhile (· ≠ '\n')
      = b.reverse.takeWhile (· ≠ '\n') := by
    rw [List.reverse_append, List.reverse_cons, List.append_assoc, List.takeWhile_append]
    split
    · next hall =>
        rw [(List.takeWhile_prefix _).eq_of_length hall]
        simp
    · rfl
  rw [endPosition, hline, hwhile]
  simp [endPosition]

/-- Behind the first line, the position is that in the rest, one line further down. -/
lemma endPosition_next_line {l : Text} (h : '\n' ∉ l) (rest : Text) :
    endPosition (l ++ '\n' :: rest)
      = ⟨(rest.count '\n' : Int) + 1, rest.endPosition.character⟩ := by
  rw [endPosition_append_newline, line_endPosition, line_endPosition,
    List.count_eq_zero_of_not_mem h]
  congr 1
  omega

lemma take_next_line (l rest : Text) (j : Nat) :
    (l ++ '\n' :: rest).take (l.length + 1 + j) = l ++ '\n' :: rest.take j := by
  rw [Nat.add_assoc, List.take_length_add_append, Nat.add_comm 1 j, List.take_succ_cons]

/-- A line feed in the second of two texts makes the position forget the characters of the first. -/
lemma endPosition_append_of_mem {b : Text} (h : '\n' ∈ b) (a : Text) :
    endPosition (a ++ b)
      = ⟨a.endPosition.line + b.endPosition.line, b.endPosition.character⟩ := by
  obtain ⟨l, r, rfl⟩ := List.append_of_mem h
  rw [← List.append_assoc, endPosition_append_newline, endPosition_append_newline]
  simp only [endPosition, List.count_append]
  congr 1
  omega

/-- A later index has a later position. -/
lemma endPosition_lt (t : Text) {i j : Nat} (hij : i < j) (hj : j ≤ t.length) :
    (endPosition (t.take i)).line < (endPosition (t.take j)).line ∨
      ((endPosition (t.take i)).line = (endPosition (t.take j)).line ∧
        (endPosition (t.take i)).character < (endPosition (t.take j)).character) := by
  have hlen := length_slice t (i := i) hj
  rw [← take_append_slice t (Nat.le_of_lt hij)]
  by_cases hmem : '\n' ∈ t.slice i j
  · left
    rw [endPosition_append_of_mem hmem, line_endPosition (t.slice i j)]
    have hpos : 0 < (t.slice i j).count '\n' := List.count_pos_iff.mpr hmem
    simp only
    omega
  · right
    rw [endPosition_append hmem]
    have hpos : 0 < units (t.slice i j) := by
      cases hs : t.slice i j with
      | nil =>
          rw [hs, List.length_nil] at hlen
          omega
      | cons c cs =>
          have := unitsOf_pos c
          rw [units_cons]
          omega
    refine ⟨rfl, ?_⟩
    simp only [Position.shifted]
    omega

/-- An index that is no earlier has a position that is no earlier. -/
lemma endPosition_le (t : Text) {i j : Nat} (hij : i ≤ j) (hj : j ≤ t.length) :
    endPosition (t.take i) ≤ endPosition (t.take j) := by
  rcases Nat.lt_or_eq_of_le hij with hlt | rfl
  · rcases endPosition_lt t hlt hj with h | ⟨hline, hchar⟩
    · exact Or.inl h
    · exact Or.inr ⟨hline, Int.le_of_lt hchar⟩
  · exact Or.inr ⟨rfl, Int.le_refl _⟩

end Text

namespace Snapshot

lemma eq_ofText (s : Snapshot) : s = ofText s.text := by
  obtain ⟨text, lines, hlines⟩ := s
  subst hlines
  rfl

/-! ## Indices, line by line -/

/-- An index never lies beyond the end of the text. -/
lemma offset_le_length (s : Snapshot) (p : Position) : s.offset p ≤ s.text.length := by
  rw [offset]
  split
  · exact Nat.zero_le _
  · split
    · exact Nat.min_le_right _ _
    · exact Nat.le_refl _

lemma startsFrom_add (k : Nat) : ∀ (i : Nat) (ls : List Text),
    startsFrom (k + i) ls = (startsFrom i ls).map (k + ·)
  | _, [] => rfl
  | i, l :: ls => by
      have ih := startsFrom_add k (i + l.length + 1) ls
      simp only [startsFrom, List.map_cons]
      rw [← ih]
      congr 2
      omega

lemma offset_last_line {l : Text} (h : '\n' ∉ l) (character : Int) :
    (ofText l).offset ⟨0, character⟩ = min (l.indexAt character) l.length := by
  simp [offset, ofText, lineStarts, Text.lines_of_not_mem h, startsFrom]

lemma offset_first_line {l : Text} (h : '\n' ∉ l) (rest : Text) (character : Int) :
    (ofText (l ++ '\n' :: rest)).offset ⟨0, character⟩
      = min (l.indexAt character) (l.length + 1 + rest.length) := by
  simp only [offset, ofText, lineStarts, Text.lines_append_newline h, startsFrom]
  simp only [List.length_append, List.length_cons]
  simp
  omega

/-- Behind a line, a position has the index that it has in the rest, moved by the line. -/
lemma offset_next_line {l : Text} (h : '\n' ∉ l) (rest : Text) (n : Nat) (character : Int) :
    (ofText (l ++ '\n' :: rest)).offset ⟨n + 1, character⟩
      = l.length + 1 + (ofText rest).offset ⟨n, character⟩ := by
  have hstarts : startsFrom (0 + l.length + 1) rest.lines
      = (startsFrom 0 rest.lines).map (l.length + 1 + ·) := by
    rw [Nat.zero_add]
    exact startsFrom_add (l.length + 1) 0 rest.lines
  have hneg : ¬ ((n : Int) + 1 < 0) := by omega
  have hneg' : ¬ ((n : Int) < 0) := by omega
  have hnat : ((n : Int) + 1).toNat = n + 1 := by omega
  simp only [offset, ofText, lineStarts, Text.lines_append_newline h, startsFrom, hneg, hneg',
    if_false, hnat, List.getElem?_cons_succ, hstarts, List.getElem?_map, Int.toNat_natCast,
    List.length_append, List.length_cons]
  cases rest.lines[n]? with
  | none => simp; omega
  | some line =>
      cases (startsFrom 0 rest.lines)[n]? with
      | none => simp; omega
      | some start => simp; omega

/-- A line that does not exist is at the end. -/
lemma offset_of_count_lt (t : Text) : ∀ p : Position, (t.count '\n' : Int) < p.line →
    (ofText t).offset p = t.length := by
  induction t using Text.line_induction with
  | last l hl =>
      rintro ⟨line, character⟩ hlt
      rw [List.count_eq_zero_of_not_mem hl] at hlt
      obtain ⟨n, rfl⟩ : ∃ n : Nat, line = n + 1 := ⟨(line - 1).toNat, by simp only at hlt; omega⟩
      have hneg : ¬ ((n : Int) + 1 < 0) := by omega
      have hnat : ((n : Int) + 1).toNat = n + 1 := by omega
      simp [offset, ofText, Text.lines_of_not_mem hl, hneg, hnat]
  | more l rest hl ih =>
      rintro ⟨line, character⟩ hlt
      rw [List.count_append, List.count_cons_self, List.count_eq_zero_of_not_mem hl] at hlt
      obtain ⟨n, rfl⟩ : ∃ n : Nat, line = n + 1 := ⟨(line - 1).toNat, by simp only at hlt; omega⟩
      have hrest := ih ⟨n, character⟩ (by simp only at hlt ⊢; omega)
      rw [offset_next_line hl, hrest, List.length_append, List.length_cons]
      omega

/-- **The position read off the text before an index has that index.** -/
lemma offset_endPosition (t : Text) :
    ∀ i ≤ t.length, (ofText t).offset (Text.endPosition (t.take i)) = i := by
  induction t using Text.line_induction with
  | last l hl =>
      intro i hi
      have hmem : '\n' ∉ l.take i := fun h => hl (List.mem_of_mem_take h)
      rw [Text.endPosition_of_not_mem hmem, offset_last_line hl, Text.indexAt_units_take l hi]
      omega
  | more l rest hl ih =>
      intro i hi
      rw [List.length_append, List.length_cons] at hi
      by_cases hle : i ≤ l.length
      · have hmem : '\n' ∉ l.take i := fun h => hl (List.mem_of_mem_take h)
        rw [List.take_append_of_le_length hle, Text.endPosition_of_not_mem hmem,
          offset_first_line hl, Text.indexAt_units_take l hle]
        omega
      · obtain ⟨j, rfl⟩ : ∃ j, i = l.length + 1 + j := ⟨i - l.length - 1, by omega⟩
        have hj : (ofText rest).offset ⟨((rest.take j).count '\n' : Nat), _⟩ = j := ih j (by omega)
        rw [Text.take_next_line, Text.endPosition_next_line hl, offset_next_line hl]
        exact congrArg (l.length + 1 + ·) hj

lemma offset_endPosition_append (a b : Text) :
    (ofText (a ++ b)).offset a.endPosition = a.length := by
  have h := offset_endPosition (a ++ b) a.length (by simp)
  rwa [List.take_left] at h

/-! ## Positions that a text admits -/

/-- The position is on a line that exists, and between two characters of it or at one of its
ends. -/
def Admits (s : Snapshot) (p : Position) : Prop :=
  0 ≤ p.line ∧ p.line < s.lineCount ∧
    ∃ n ≤ (s.lineAt p.line).length, p.character = Text.units ((s.lineAt p.line).take n)

instance (s : Snapshot) (p : Position) : Decidable (s.Admits p) :=
  inferInstanceAs (Decidable (0 ≤ p.line ∧ p.line < s.lineCount ∧
    ∃ n ≤ (s.lineAt p.line).length, p.character = Text.units ((s.lineAt p.line).take n)))

lemma lineAt_last_line {l : Text} (h : '\n' ∉ l) : (ofText l).lineAt 0 = l := by
  simp [lineAt, ofText, Text.lines_of_not_mem h]

lemma lineAt_first_line {l : Text} (h : '\n' ∉ l) (rest : Text) :
    (ofText (l ++ '\n' :: rest)).lineAt 0 = l := by
  simp [lineAt, ofText, Text.lines_append_newline h]

lemma lineAt_next_line {l : Text} (h : '\n' ∉ l) (rest : Text) (n : Nat) :
    (ofText (l ++ '\n' :: rest)).lineAt (n + 1) = (ofText rest).lineAt n := by
  have hnat : ((n : Int) + 1).toNat = n + 1 := by omega
  simp only [lineAt, ofText, Text.lines_append_newline h]
  rw [if_neg (by omega), if_neg (by omega), hnat, Int.toNat_natCast, List.getElem?_cons_succ]

lemma lineCount_last_line {l : Text} (h : '\n' ∉ l) : (ofText l).lineCount = 1 := by
  simp [lineCount, ofText, Text.lines_of_not_mem h]

lemma lineCount_next_line {l : Text} (h : '\n' ∉ l) (rest : Text) :
    (ofText (l ++ '\n' :: rest)).lineCount = (ofText rest).lineCount + 1 := by
  simp [lineCount, ofText, Text.lines_append_newline h]

/-- A position that a text admits stands at the end of some beginning of it. -/
lemma exists_endPosition (t : Text) : ∀ p : Position, (ofText t).Admits p →
    ∃ i ≤ t.length, p = Text.endPosition (t.take i) := by
  induction t using Text.line_induction with
  | last l hl =>
      rintro ⟨line, character⟩ ⟨hnonneg, hlt, n, hn, hcharacter⟩
      rw [lineCount_last_line hl] at hlt
      obtain rfl : line = 0 := by simp only at hnonneg hlt; omega
      simp only [lineAt_last_line hl] at hn hcharacter
      have hmem : '\n' ∉ l.take n := fun h => hl (List.mem_of_mem_take h)
      exact ⟨n, hn, by rw [Text.endPosition_of_not_mem hmem, hcharacter]⟩
  | more l rest hl ih =>
      rintro ⟨line, character⟩ ⟨hnonneg, hlt, n, hn, hcharacter⟩
      rw [lineCount_next_line hl] at hlt
      obtain ⟨k, rfl⟩ := Int.eq_ofNat_of_zero_le hnonneg
      cases k with
      | zero =>
          simp only [Int.natCast_zero, lineAt_first_line hl] at hn hcharacter
          have hmem : '\n' ∉ l.take n := fun h => hl (List.mem_of_mem_take h)
          refine ⟨n, by simp only [List.length_append]; omega, ?_⟩
          rw [List.take_append_of_le_length hn, Text.endPosition_of_not_mem hmem, hcharacter]
          rfl
      | succ k =>
          simp only [Int.natCast_succ, lineAt_next_line hl] at hn hcharacter
          obtain ⟨j, hj, hp⟩ := ih ⟨k, character⟩
            ⟨Int.natCast_nonneg k, by simp only at hlt ⊢; omega, n, hn, hcharacter⟩
          obtain ⟨hline, hchar⟩ := Position.mk.inj hp
          refine ⟨l.length + 1 + j, by simp only [List.length_append, List.length_cons]; omega, ?_⟩
          rw [Text.take_next_line, Text.endPosition_next_line hl, hchar, ← hline]
          rfl

/-- Conversely, a text admits the position at the end of each of its beginnings. -/
lemma admits_endPosition (t : Text) :
    ∀ i ≤ t.length, (ofText t).Admits (Text.endPosition (t.take i)) := by
  induction t using Text.line_induction with
  | last l hl =>
      intro i hi
      have hmem : '\n' ∉ l.take i := fun h => hl (List.mem_of_mem_take h)
      rw [Text.endPosition_of_not_mem hmem]
      refine ⟨Int.le_refl _, by rw [lineCount_last_line hl]; simp only; omega, i, ?_⟩
      simp only [lineAt_last_line hl, hi, true_and]
  | more l rest hl ih =>
      intro i hi
      rw [List.length_append, List.length_cons] at hi
      by_cases hle : i ≤ l.length
      · have hmem : '\n' ∉ l.take i := fun h => hl (List.mem_of_mem_take h)
        rw [List.take_append_of_le_length hle, Text.endPosition_of_not_mem hmem]
        refine ⟨Int.le_refl _, by rw [lineCount_next_line hl]; simp only; omega, i, ?_⟩
        simp only [lineAt_first_line hl, hle, true_and]
      · obtain ⟨j, rfl⟩ : ∃ j, i = l.length + 1 + j := ⟨i - l.length - 1, by omega⟩
        obtain ⟨hnonneg, hlt, n, hn, hcharacter⟩ := ih j (by omega)
        rw [Text.take_next_line, Text.endPosition_next_line hl]
        refine ⟨by simp only; omega, ?_, n, ?_⟩
        · rw [lineCount_next_line hl]
          simp only [Text.line_endPosition] at hlt ⊢
          omega
        · rw [Text.line_endPosition] at hn hcharacter
          simp only [lineAt_next_line hl]
          exact ⟨hn, hcharacter⟩

lemma admits_endPosition_append (a b : Text) : (ofText (a ++ b)).Admits a.endPosition := by
  have h := admits_endPosition (a ++ b) a.length (by simp)
  rwa [List.take_left] at h

/-- **A position that a snapshot admits is read off the text before it.** -/
lemma eq_endPosition_of_admits {s : Snapshot} {p : Position} (h : s.Admits p) :
    p = Text.endPosition (s.text.take (s.offset p)) := by
  rw [eq_ofText s] at h ⊢
  obtain ⟨i, hi, rfl⟩ := exists_endPosition s.text p h
  rw [offset_endPosition s.text i hi]
  rfl

/-! ## The order of positions -/

/-- The position is on a line that exists, and within it.  It may lie inside a surrogate pair. -/
def Holds (s : Snapshot) (p : Position) : Prop :=
  0 ≤ p.line ∧ p.line < s.lineCount ∧
    0 ≤ p.character ∧ p.character ≤ (Text.units (s.lineAt p.line) : Int)

instance (s : Snapshot) (p : Position) : Decidable (s.Holds p) :=
  inferInstanceAs (Decidable (0 ≤ p.line ∧ p.line < s.lineCount ∧
    0 ≤ p.character ∧ p.character ≤ (Text.units (s.lineAt p.line) : Int)))

lemma Admits.holds {s : Snapshot} {p : Position} (h : s.Admits p) : s.Holds p := by
  obtain ⟨hnonneg, hlt, n, -, hcharacter⟩ := h
  have hunits := Text.units_le_of_sublist (List.take_sublist n (s.lineAt p.line))
  exact ⟨hnonneg, hlt, by omega, by omega⟩

lemma holds_next_line {l : Text} (h : '\n' ∉ l) (rest : Text) (n : Nat) (character : Int) :
    (ofText (l ++ '\n' :: rest)).Holds ⟨n + 1, character⟩ ↔ (ofText rest).Holds ⟨n, character⟩ := by
  simp only [Holds, lineAt_next_line h, lineCount_next_line h]
  omega

/-- Positions of a text are in the order of their indices, line by line. -/
lemma offset_mono (t : Text) : ∀ p q : Position, (ofText t).Holds p → (ofText t).Holds q →
    p ≤ q → (ofText t).offset p ≤ (ofText t).offset q := by
  induction t using Text.line_induction with
  | last l hl =>
      rintro ⟨line, character⟩ ⟨line', character'⟩ ⟨hnonneg, hlt, -⟩ ⟨hnonneg', hlt', -⟩ hle
      rw [lineCount_last_line hl] at hlt hlt'
      obtain rfl : line = 0 := by simp only at hnonneg hlt; omega
      obtain rfl : line' = 0 := by simp only at hnonneg' hlt'; omega
      have hcharacter : character ≤ character' := Position.character_le_of_le hle rfl
      have hindex := l.indexAt_mono hcharacter
      rw [offset_last_line hl, offset_last_line hl]
      omega
  | more l rest hl ih =>
      rintro ⟨line, character⟩ ⟨line', character'⟩ hp hq hle
      obtain ⟨k, rfl⟩ := Int.eq_ofNat_of_zero_le hp.1
      obtain ⟨k', rfl⟩ := Int.eq_ofNat_of_zero_le hq.1
      cases k with
      | zero =>
          have hunits := hp.2.2.2
          simp only [Int.natCast_zero, lineAt_first_line hl] at hunits
          have hend := l.indexAt_le_length hunits
          rw [Int.natCast_zero, offset_first_line hl]
          cases k' with
          | zero =>
              have hcharacter : character ≤ character' := Position.character_le_of_le hle rfl
              have hindex := l.indexAt_mono hcharacter
              rw [Int.natCast_zero, offset_first_line hl]
              omega
          | succ k' =>
              -- The first line ends before the others start.
              rw [Int.natCast_succ, offset_next_line hl]
              omega
      | succ k =>
          have hlines := Position.line_le_of_le hle
          obtain ⟨k', rfl⟩ : ∃ j, k' = j + 1 := ⟨k' - 1, by simp only at hlines; omega⟩
          simp only [Int.natCast_succ] at hp hq hle ⊢
          rw [offset_next_line hl, offset_next_line hl]
          have hrest := ih ⟨k, character⟩ ⟨k', character'⟩ ((holds_next_line hl _ _ _).mp hp)
            ((holds_next_line hl _ _ _).mp hq) (Position.le_of_next_line hle)
          omega

lemma offset_le_offset {s : Snapshot} {p q : Position} (hp : s.Holds p) (hq : s.Holds q)
    (hle : p ≤ q) : s.offset p ≤ s.offset q := by
  rw [eq_ofText s] at hp hq ⊢
  exact offset_mono s.text p q hp hq hle

/-! ## Indices and positions -/

/-- **Indices and positions are inverse to each other, and in the same order.**  The position of an
index leads back to it, and a range between two of them covers the text between the indices.
Positions within their lines are in the order of their indices, also inside of surrogate pairs, and
no position at all leads out of the text. -/
theorem offset_inverts_positionAt (s : Snapshot) :
    (∀ i ≤ s.text.length, s.Holds (s.positionAt i) ∧ s.offset (s.positionAt i) = i) ∧
      (∀ i j, i ≤ j → j ≤ s.text.length →
        s.textAt ⟨s.positionAt i, s.positionAt j⟩ = s.text.slice i j) ∧
      (∀ p q, s.Holds p → s.Holds q → p ≤ q → s.offset p ≤ s.offset q) ∧
      ∀ p, s.offset p ≤ s.text.length := by
  have hinverse : ∀ i ≤ s.text.length, s.offset (s.positionAt i) = i := by
    rw [eq_ofText s]
    exact offset_endPosition s.text
  refine ⟨fun i hi => ⟨?_, hinverse i hi⟩, fun i j hij hj => ?_, ?_, s.offset_le_length⟩
  · have hadmits := admits_endPosition s.text i hi
    rw [← eq_ofText s] at hadmits
    exact hadmits.holds
  · rw [textAt, hinverse j hj, hinverse i (Nat.le_trans hij hj), Text.slice]
  · exact fun p q => offset_le_offset

/-- A carriage return stays in its line, and a character outside the basic plane counts two: the
position between its halves leads behind it. -/
theorem offset_inverts_positionAt_pair :
    let s : Snapshot := .ofText "a\r\n𝒳b\n"
    s.positionAt 4 = ⟨1, 2⟩ ∧ s.offset ⟨1, 2⟩ = 4 ∧
      s.textAt ⟨⟨0, 1⟩, ⟨1, 2⟩⟩ = "\r\n𝒳".toList ∧
      s.Holds ⟨1, 1⟩ ∧ s.offset ⟨1, 1⟩ ≤ s.offset ⟨1, 2⟩ ∧ s.offset ⟨-1, 9⟩ ≤ 6 := by
  intro s
  have hlength : s.text.length = 6 := by decide
  obtain ⟨hinverse, htext, hmono, hbound⟩ := offset_inverts_positionAt s
  have hone : s.positionAt 1 = ⟨0, 1⟩ := by decide
  have hfour : s.positionAt 4 = ⟨1, 2⟩ := by decide
  have hback := (hinverse 4 (by decide)).2
  have hcovered := htext 1 4 (by decide) (by decide)
  rw [hfour] at hback
  rw [hone, hfour] at hcovered
  have hpair : s.Holds ⟨1, 1⟩ := by decide
  have hlater := hmono ⟨1, 1⟩ ⟨1, 2⟩ hpair (by decide) (by decide)
  exact ⟨hfour, hback, hcovered.trans (by decide), hpair, hlater, hlength ▸ hbound ⟨-1, 9⟩⟩

end Snapshot

end Amend
