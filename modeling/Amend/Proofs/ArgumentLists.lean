import Amend.Proofs.ArgumentDeletion
import Amend.Proofs.Batch
import Amend.Proofs.Occurrences

/-!
# One argument less

A call whose arguments stand in any layout: on one line or on many, with gaps before and behind
every comma, and with or without a comma at the end.  If one of its arguments is redundant, the call
has the other arguments afterwards, in their order.

**Pieces.**  `IsPiece` is a balanced text that cutting leaves whole.  Pieces can be put together,
blanks are pieces, and behind a comma that separates the cutting starts afresh
(`splitArguments_comma`), whether the text before it is balanced or not.

**Layouts.**  An `ArgumentList` holds arguments with the gaps around them.  It carries what makes it
one: every argument is a piece without blanks at its ends, and a comma is at most one line away from
the argument before it.

**The deletion.**  `Rule.Takes` says what goes besides the argument: blanks and at most one comma.
Which comma it is follows from there alone.  Behind the argument it is found wherever there is one
(`comma_mem_separatorAfter`), and otherwise the text that goes ends before the bracket, so that the
comma can only be the one in front.
-/

namespace Amend

/-! ## Pieces -/

namespace Text

lemma strip_blank_append {g : Text} (hg : ∀ c ∈ g, isBlank c) (t : Text) :
    (g ++ t).strip = t.strip := by
  rw [strip, List.dropWhile_append_of_pos hg, ← strip]

lemma dropEndWhile_append {p : Char → Bool} {g : Text} (hg : ∀ c ∈ g, p c) (t : Text) :
    dropEndWhile p (t ++ g) = dropEndWhile p t := by
  have hg' : ∀ c ∈ g.reverse, p c := fun c hc => hg c (List.mem_reverse.mp hc)
  rw [dropEndWhile, List.reverse_append, List.dropWhile_append_of_pos hg', ← dropEndWhile]

lemma strip_append_blank {g : Text} (hg : ∀ c ∈ g, isBlank c) (t : Text) :
    (t ++ g).strip = t.strip := by
  rw [strip, List.dropWhile_append]
  split
  · next hempty =>
    rw [strip, List.isEmpty_iff.mp hempty, List.dropWhile_eq_nil_iff.mpr hg]
  · rw [dropEndWhile_append hg, ← strip]

/-- What stripping takes away. -/
lemma exists_append_strip (t : Text) : ∃ g g', t = g ++ t.strip ++ g' ∧
    (∀ c ∈ g, isBlank c) ∧ ∀ c ∈ g', isBlank c := by
  obtain ⟨g', ht, hg'⟩ := exists_append_dropEndWhile isBlank (t.dropWhile isBlank)
  refine ⟨t.takeWhile isBlank, g', ?_, List.all_eq_true.mp List.all_takeWhile, hg'⟩
  rw [strip, List.append_assoc, ← ht, List.takeWhile_append_dropWhile]

lemma strip_strip (t : Text) : t.strip.strip = t.strip := by
  obtain ⟨g, g', ht, hg, hg'⟩ := t.exists_append_strip
  calc t.strip.strip = (g ++ t.strip ++ g').strip := by
        rw [strip_append_blank hg', strip_blank_append hg]
    _ = t.strip := by rw [← ht]

lemma isBlank_of_strip_eq_nil {t : Text} (h : t.strip = []) : ∀ c ∈ t, isBlank c := by
  obtain ⟨g, g', ht, hg, hg'⟩ := t.exists_append_strip
  rw [h, List.append_nil] at ht
  rw [ht]
  exact List.forall_mem_append.mpr ⟨hg, hg'⟩

end Text

namespace Nesting

lemma run_append (n : Nesting) (t u : Text) : n.run (t ++ u) = (n.run t).run u :=
  List.foldl_append

lemma eq_start_of_isClosed {n : Nesting} (h : n.isClosed) : n = start := by
  obtain ⟨mode, depth, proper⟩ := n
  simp only [isClosed, isTop, Bool.and_eq_true, beq_iff_eq] at h
  obtain ⟨rfl, rfl, rfl⟩ := h
  rfl

lemma run_cons (n : Nesting) (c : Char) (t : Text) : n.run (c :: t) = (n.step c).run t := rfl

/-- Most characters open and close nothing. -/
lemma step_plain {n : Nesting} (hmode : n.mode = .code) {c : Char} (hmark : ¬ isMark c)
    (hopener : ¬ isOpener c) (hcloser : ¬ isCloser c) : n.step c = n := by
  simp [step, hmode, hmark, hopener, hcloser]

lemma step_comma {n : Nesting} (hmode : n.mode = .code) : n.step ',' = n :=
  step_plain hmode (by decide) (by decide) (by decide)

lemma step_blank {n : Nesting} (hmode : n.mode = .code) {c : Char} (h : isBlank c) :
    n.step c = n := by
  refine step_plain hmode (fun hc => ?_) (fun hc => ?_) fun hc => ?_
  · simp only [isMark, Bool.or_eq_true, beq_iff_eq] at hc
    rcases hc with rfl | rfl <;> exact absurd h (by decide)
  · simp only [isOpener, Bool.or_eq_true, beq_iff_eq] at hc
    rcases hc with (rfl | rfl) | rfl <;> exact absurd h (by decide)
  · simp only [isCloser, Bool.or_eq_true, beq_iff_eq] at hc
    rcases hc with (rfl | rfl) | rfl <;> exact absurd h (by decide)

lemma run_blank : ∀ {g : Text}, (∀ c ∈ g, isBlank c) → start.run g = start
  | [], _ => rfl
  | c :: g, h => by
      have ih := run_blank fun d hd => h d (List.mem_cons_of_mem c hd)
      rwa [run_cons, step_blank rfl (h c List.mem_cons_self)]

/-- The one scan is where the other is, a number of brackets further in. -/
structure Inside (brackets : Int) (m n : Nesting) : Prop where
  mode_eq : m.mode = n.mode
  depth_eq : m.depth = n.depth + brackets

lemma Inside.step {brackets : Int} {m n : Nesting} (h : Inside brackets m n) (c : Char) :
    Inside brackets (m.step c) (n.step c) := by
  obtain ⟨mode, depth, proper⟩ := n
  obtain ⟨mode', depth', proper'⟩ := m
  obtain ⟨rfl, rfl⟩ : mode' = mode ∧ depth' = depth + brackets := ⟨h.mode_eq, h.depth_eq⟩
  cases mode' with
  | escape mark => exact ⟨rfl, rfl⟩
  | literal mark =>
      simp only [Nesting.step]
      split_ifs <;> exact ⟨rfl, rfl⟩
  | code =>
      simp only [Nesting.step]
      split_ifs
      · exact ⟨rfl, rfl⟩
      · refine ⟨rfl, ?_⟩
        simp only
        omega
      · refine ⟨rfl, ?_⟩
        simp only
        omega
      · exact ⟨rfl, rfl⟩

lemma Inside.run {brackets : Int} {m n : Nesting} (h : Inside brackets m n) (t : Text) :
    Inside brackets (m.run t) (n.run t) := by
  induction t generalizing m n with
  | nil => exact h
  | cons c t ih => exact ih (h.step c)

lemma Inside.isTop_eq {m n : Nesting} (h : Inside 0 m n) : m.isTop = n.isTop := by
  rw [isTop, isTop, h.mode_eq, h.depth_eq, Int.add_zero]

/-- Behind a comma outside of literals and brackets, the scan is where it was at the beginning. -/
lemma inside_comma {n : Nesting} (htop : n.isTop) : Inside 0 (n.step ',') start := by
  simp only [isTop, Bool.and_eq_true, beq_iff_eq] at htop
  rw [step_comma htop.1]
  exact ⟨htop.1, htop.2⟩

end Nesting

/-- **A text that cutting leaves in one piece.**  Its literals and brackets end, and its commas
stand in them. -/
structure IsPiece (p : Text) : Prop where
  closed : (Nesting.start.run p).isClosed
  uncut : ∀ k < p.length, p[k]? = some ',' → ¬ (Nesting.start.run (p.take k)).isTop

instance (p : Text) : Decidable (IsPiece p) :=
  decidable_of_iff ((Nesting.start.run p).isClosed ∧
    ∀ k < p.length, p[k]? = some ',' → ¬ (Nesting.start.run (p.take k)).isTop)
    ⟨fun ⟨closed, uncut⟩ => ⟨closed, uncut⟩, fun h => ⟨h.closed, h.uncut⟩⟩

namespace IsPiece

variable {p q : Text}

lemma run_eq (h : IsPiece p) : Nesting.start.run p = .start :=
  Nesting.eq_start_of_isClosed h.closed

lemma isTop (h : IsPiece p) : (Nesting.start.run p).isTop := by
  rw [h.run_eq]
  rfl

lemma not_isTop (h : IsPiece p) {a b : Text} (hp : p = a ++ ',' :: b) :
    ¬ (Nesting.start.run a).isTop := by
  have huncut := h.uncut a.length (by simp [hp]) (by simp [hp])
  rwa [hp, List.take_left] at huncut

lemma append (hp : IsPiece p) (hq : IsPiece q) : IsPiece (p ++ q) where
  closed := by
    rw [Nesting.run_append, hp.run_eq]
    exact hq.closed
  uncut := by
    intro k hk hcomma
    rcases Nat.lt_or_ge k p.length with hlt | hge
    · rw [List.getElem?_append_left hlt] at hcomma
      rw [List.take_append_of_le_length (Nat.le_of_lt hlt)]
      exact hp.uncut k hlt hcomma
    · rw [List.getElem?_append_right hge] at hcomma
      rw [List.length_append] at hk
      rw [List.take_append, List.take_of_length_le hge, Nesting.run_append, hp.run_eq]
      exact hq.uncut (k - p.length) (by omega) hcomma

lemma of_blank (h : ∀ c ∈ p, isBlank c) : IsPiece p where
  closed := by
    rw [Nesting.run_blank h]
    rfl
  uncut := fun _ _ hcomma => absurd (h _ (List.mem_of_getElem? hcomma)) (by decide)

end IsPiece

/-- **No comma of the text separates**, for a scan that has reached the state `n`. -/
def Uncut (n : Nesting) (p : Text) : Prop := ∀ a b, p = a ++ ',' :: b → ¬ (n.run a).isTop

lemma IsPiece.isUncut {p : Text} (h : IsPiece p) : Uncut .start p := fun _ _ => h.not_isTop

/-- The scan passes over a text whose commas do not separate. -/
lemma cutFrom_append : ∀ {p : Text} {n : Nesting}, Uncut n p → ∀ rest,
    cutFrom n (p ++ rest) = Text.prependHead p (cutFrom (n.run p) rest)
  | [], n, _, rest => by
      obtain ⟨piece, pieces, hpieces⟩ := List.exists_cons_of_ne_nil (cutFrom_ne_nil n rest)
      simp [Nesting.run, hpieces, Text.prependHead]
  | c :: cs, n, h, rest => by
      have hcut : isCut n c = false := Bool.eq_false_iff.mpr fun hcut => by
        rw [isCut, Bool.and_eq_true, beq_iff_eq] at hcut
        obtain ⟨rfl, htop⟩ := hcut
        exact h [] cs rfl htop
      have huncut : Uncut (n.step c) cs :=
        fun a b hab => h (c :: a) b (by rw [hab, List.cons_append])
      have ih := cutFrom_append huncut rest
      obtain ⟨piece, pieces, hpieces⟩ :=
        List.exists_cons_of_ne_nil (cutFrom_ne_nil ((n.step c).run cs) rest)
      rw [hpieces, Text.prependHead] at ih
      have hrun : n.run (c :: cs) = (n.step c).run cs := rfl
      rw [List.cons_append, cutFrom, hcut, ih, hrun, hpieces]
      rfl

/-- Where a text is cut depends on the literal and the brackets that are open, and on nothing
else. -/
lemma cutFrom_congr : ∀ (t : Text) {m n : Nesting}, m.Inside 0 n → cutFrom m t = cutFrom n t
  | [], _, _, _ => rfl
  | c :: cs, m, n, h => by
      have hcut : isCut m c = isCut n c := by rw [isCut, isCut, h.isTop_eq]
      rw [cutFrom, cutFrom, hcut, cutFrom_congr cs (h.step c)]

/-- A piece at which nothing is cut. -/
lemma cutFrom_uncut {p : Text} {n : Nesting} (h : Uncut n p) : cutFrom n p = [p] := by
  have hcut := cutFrom_append h []
  rwa [List.append_nil, cutFrom, Text.prependHead, List.append_nil] at hcut

/-- **Behind a comma that separates**, cutting starts afresh. -/
lemma cutFrom_comma {p : Text} (h : Uncut .start p) (htop : (Nesting.start.run p).isTop)
    (t : Text) : cutFrom .start (p ++ ',' :: t) = p :: cutFrom .start t := by
  have hcut : isCut (Nesting.start.run p) ',' := htop
  rw [cutFrom_append h, cutFrom, if_pos hcut, cutFrom_congr t (Nesting.inside_comma htop),
    Text.prependHead, List.append_nil]

lemma splitArguments_comma {p : Text} (h : Uncut .start p) (htop : (Nesting.start.run p).isTop)
    (t : Text) : splitArguments (p ++ ',' :: t) = p.strip :: splitArguments t := by
  have hne : (cutFrom .start t).map Text.strip ≠ [] :=
    fun hnil => cutFrom_ne_nil _ _ (List.map_eq_nil_iff.mp hnil)
  obtain ⟨piece, pieces, hpieces⟩ := List.exists_cons_of_ne_nil hne
  rw [splitArguments, cutFrom_comma h htop, List.map_cons, splitArguments, hpieces,
    List.getLast?_cons_cons, List.dropLast_cons_cons]
  split <;> rfl

lemma splitArguments_uncut {p : Text} (h : Uncut .start p) (hne : p.strip ≠ []) :
    splitArguments p = [p.strip] := by
  simp [splitArguments, cutFrom_uncut h, hne]

lemma splitArguments_piece_comma {p : Text} (h : IsPiece p) (t : Text) :
    splitArguments (p ++ ',' :: t) = p.strip :: splitArguments t :=
  splitArguments_comma h.isUncut h.isTop t

lemma splitArguments_piece {p : Text} (h : IsPiece p) (hne : p.strip ≠ []) :
    splitArguments p = [p.strip] := splitArguments_uncut h.isUncut hne

/-- Blanks in front change nothing. -/
lemma splitArguments_blank_append {g : Text} (hg : ∀ c ∈ g, isBlank c) (t : Text) :
    splitArguments (g ++ t) = splitArguments t := by
  have hpieces : (cutFrom .start (g ++ t)).map Text.strip = (cutFrom .start t).map Text.strip := by
    obtain ⟨piece, pieces, hcut⟩ := List.exists_cons_of_ne_nil (cutFrom_ne_nil .start t)
    rw [cutFrom_append (IsPiece.of_blank hg).isUncut, Nesting.run_blank hg, hcut, Text.prependHead,
      List.map_cons, List.map_cons, Text.strip_blank_append hg]
  simp only [splitArguments, hpieces]

lemma splitArguments_blank {g : Text} (hg : ∀ c ∈ g, isBlank c) : splitArguments g = [] := by
  have hnone := splitArguments_blank_append hg []
  rwa [List.append_nil] at hnone

/-! ## Layouts -/

/-- Is the text made of spaces, tabs and line breaks?  A carriage return counts only as part of a
line break. -/
def isLayout : Text → Bool
  | [] => true
  | '\r' :: '\n' :: t => isLayout t
  | c :: t => (Rule.isGap c || c == '\n') && isLayout t

section

variable {g : Text}

lemma isBlank_of_isLayout (h : isLayout g) : ∀ c ∈ g, isBlank c := by
  fun_induction isLayout g with
  | case1 => simp
  | case2 t ih =>
      intro c hc
      rcases List.mem_cons.mp hc with rfl | hc
      · decide
      · rcases List.mem_cons.mp hc with rfl | hc
        · decide
        · exact ih h c hc
  | case3 d t _ ih =>
      rw [Bool.and_eq_true, Bool.or_eq_true, beq_iff_eq] at h
      intro c hc
      rcases List.mem_cons.mp hc with rfl | hc
      · rcases h.1 with hgap | rfl
        · exact Rule.isBlank_of_isGap hgap
        · decide
      · exact ih h.2 c hc

/-- On one line, a layout is gaps. -/
lemma isGap_of_isLayout (h : isLayout g) (hline : '\n' ∉ g) : ∀ c ∈ g, Rule.isGap c := by
  fun_induction isLayout g with
  | case1 => simp
  | case2 t ih => simp at hline
  | case3 d t _ ih =>
      rw [Bool.and_eq_true, Bool.or_eq_true, beq_iff_eq] at h
      obtain ⟨hd, ht⟩ := not_or.mp fun hor => hline (List.mem_cons.mpr hor)
      intro c hc
      rcases List.mem_cons.mp hc with rfl | hc
      · exact h.1.resolve_right (Ne.symm hd)
      · exact ih h.2 ht c hc

/-- What follows a line break in a layout is a layout. -/
lemma isLayout_below {l r : Text} (h : isLayout (l ++ '\n' :: r)) : isLayout r := by
  generalize hg : l ++ '\n' :: r = g at h
  fun_induction isLayout g generalizing l with
  | case1 => simp at hg
  | case2 t ih =>
      match l with
      | [] => simp at hg
      | [d] =>
          obtain ⟨-, rfl⟩ := List.cons_eq_cons.mp (List.cons_eq_cons.mp hg).2
          exact h
      | d :: e :: l => exact ih (List.cons_eq_cons.mp (List.cons_eq_cons.mp hg).2).2 h
  | case3 d t _ ih =>
      rw [Bool.and_eq_true] at h
      match l with
      | [] =>
          obtain ⟨-, rfl⟩ := List.cons_eq_cons.mp hg
          exact h.2
      | e :: l => exact ih (List.cons_eq_cons.mp hg).2 h.2

end

/-- An argument and the gaps around it, up to the commas or brackets next to it. -/
structure Slot where
  before : Text
  argument : Text
  after : Text
  layout_before : isLayout before := by decide
  layout_after : isLayout after := by decide
  ne_nil : argument ≠ [] := by decide
  stripped : argument.strip = argument := by decide
  piece : IsPiece argument := by decide

namespace Slot

variable (slot : Slot)

def text : Text := slot.before ++ slot.argument ++ slot.after

lemma blank_before : ∀ c ∈ slot.before, isBlank c := isBlank_of_isLayout slot.layout_before

lemma blank_after : ∀ c ∈ slot.after, isBlank c := isBlank_of_isLayout slot.layout_after

/-- An argument with other blanks around it. -/
lemma piece_around {g g' : Text} (hg : ∀ c ∈ g, isBlank c) (hg' : ∀ c ∈ g', isBlank c) :
    IsPiece (g ++ slot.argument ++ g') ∧ (g ++ slot.argument ++ g').strip = slot.argument := by
  refine ⟨((IsPiece.of_blank hg).append slot.piece).append (.of_blank hg'), ?_⟩
  rw [Text.strip_append_blank hg', Text.strip_blank_append hg, slot.stripped]

lemma splitArguments_around {g g' : Text} (hg : ∀ c ∈ g, isBlank c) (hg' : ∀ c ∈ g', isBlank c) :
    splitArguments (g ++ slot.argument ++ g') = [slot.argument] := by
  obtain ⟨hpiece, hstrip⟩ := slot.piece_around hg hg'
  have hne : (g ++ slot.argument ++ g').strip ≠ [] := hstrip.symm ▸ slot.ne_nil
  rw [splitArguments_piece hpiece hne, hstrip]

lemma splitArguments_around_comma {g g' : Text} (hg : ∀ c ∈ g, isBlank c)
    (hg' : ∀ c ∈ g', isBlank c) (t : Text) :
    splitArguments (g ++ slot.argument ++ g' ++ ',' :: t) = slot.argument :: splitArguments t := by
  obtain ⟨hpiece, hstrip⟩ := slot.piece_around hg hg'
  rw [splitArguments_piece_comma hpiece, hstrip]

lemma exists_first : ∃ c cs, slot.argument = c :: cs ∧ ¬ isBlank c := by
  obtain ⟨c, cs, harg⟩ := List.exists_cons_of_ne_nil slot.ne_nil
  refine ⟨c, cs, harg, fun hblank => ?_⟩
  have hstrip := Text.strip_blank_append (g := [c]) (by simpa using hblank) cs
  rw [List.singleton_append, ← harg, slot.stripped] at hstrip
  have hlength := (Text.strip_sublist cs).length_le
  rw [← hstrip, harg, List.length_cons] at hlength
  omega

lemma exists_last : ∃ cs c, slot.argument = cs ++ [c] ∧ ¬ isBlank c := by
  obtain ⟨cs, c, harg⟩ := (List.eq_nil_or_concat slot.argument).resolve_left slot.ne_nil
  rw [List.concat_eq_append] at harg
  refine ⟨cs, c, harg, fun hblank => ?_⟩
  have hstrip := Text.strip_append_blank (g := [c]) (by simpa using hblank) cs
  rw [← harg, slot.stripped] at hstrip
  have hlength := (Text.strip_sublist cs).length_le
  rw [← hstrip, harg, List.length_append, List.length_singleton] at hlength
  omega

/-- Arguments, each with the comma that follows it. -/
def lead (slots : List Slot) : Text := slots.flatMap fun slot => slot.text ++ [',']

/-- Arguments with commas between them, and perhaps a last comma and a gap behind it. -/
def joined (ending : Option Text) (slots : List Slot) : Text :=
  Text.joinWith [','] (slots.map Slot.text ++ ending.toList)

/-- What follows an argument: the other arguments behind a comma, or nothing. -/
def behind (ending : Option Text) (rest : List Slot) : Text :=
  if rest = [] ∧ ending = none then [] else ',' :: joined ending rest

end Slot

open Slot (lead joined behind)

/-- **A list of arguments** as it stands between the brackets of a call. -/
structure ArgumentList where
  slots : List Slot
  /-- The gap behind a comma that follows the last argument. -/
  ending : Option Text := none
  layout_ending : ∀ g ∈ ending, isLayout g := by decide
  /-- Between an argument and the comma that follows it, there is at most one line break. -/
  near : ∀ i : Fin slots.length, (i + 1 < slots.length ∨ ending.isSome) →
    slots[i].after.count '\n' ≤ 1 := by decide

namespace ArgumentList

variable (list : ArgumentList)

/-- The text between the brackets. -/
def text : Text := joined list.ending list.slots

def args : List Text := list.slots.map Slot.argument

def slot (i : Fin list.slots.length) : Slot := list.slots[i]

/-- A file with the list in brackets. -/
def file (pre post : Text) : Text := pre ++ '(' :: list.text ++ ')' :: post

/-- The text of the file before an argument. -/
def front (pre : Text) (i : Fin list.slots.length) : Text :=
  pre ++ '(' :: (lead (list.slots.take i) ++ (list.slot i).before)

/-- The range of an argument in the file. -/
def rangeAt (pre : Text) (i : Fin list.slots.length) : Range :=
  ⟨(list.front pre i).endPosition, (list.front pre i ++ (list.slot i).argument).endPosition⟩

end ArgumentList

/-! ## Taking a list apart -/

lemma Text.joinWith_cons {sep t : Text} {ts : List Text} (h : ts ≠ []) :
    joinWith sep (t :: ts) = t ++ (sep ++ joinWith sep ts) := by
  obtain ⟨u, us, rfl⟩ := List.exists_cons_of_ne_nil h
  exact joinWith_cons_cons sep t u us

namespace Slot

lemma lead_concat (slots : List Slot) (slot : Slot) :
    lead (slots ++ [slot]) = lead slots ++ (slot.text ++ [',']) := by
  simp [lead]

section

variable (ending : Option Text)

lemma joined_cons (slot : Slot) (rest : List Slot) :
    joined ending (slot :: rest) = slot.text ++ behind ending rest := by
  rw [joined, behind, List.map_cons, List.cons_append]
  split
  · next hnone =>
    obtain ⟨rfl, rfl⟩ := hnone
    simp [Text.joinWith]
  · next hsome =>
    have hne : rest.map Slot.text ++ ending.toList ≠ [] := by
      simpa using hsome
    rw [Text.joinWith_cons hne]
    rfl

lemma joined_append (slot : Slot) (rest : List Slot) : ∀ slots : List Slot,
    joined ending (slots ++ slot :: rest) = lead slots ++ (slot.text ++ behind ending rest)
  | [] => joined_cons ending slot rest
  | first :: slots => by
      have ih := joined_append slot rest slots
      rw [List.cons_append, joined_cons, behind, if_neg (by simp), ih]
      simp [lead]

lemma splitArguments_lead (t : Text) : ∀ slots : List Slot,
    splitArguments (lead slots ++ t) = slots.map Slot.argument ++ splitArguments t
  | [] => rfl
  | slot :: slots => by
      have ih := splitArguments_lead t slots
      have hsplit := slot.splitArguments_around_comma slot.blank_before slot.blank_after
        (lead slots ++ t)
      rw [ih] at hsplit
      simpa [lead, Slot.text] using hsplit

lemma splitArguments_joined (hlayout : ∀ g ∈ ending, isLayout g) : ∀ slots : List Slot,
    splitArguments (joined ending slots) = slots.map Slot.argument
  | [] => by
      cases ending with
      | none => rfl
      | some g =>
          have hblank := isBlank_of_isLayout (hlayout g rfl)
          simpa [joined, Text.joinWith] using splitArguments_blank hblank
  | slot :: slots => by
      have ih := splitArguments_joined hlayout slots
      rw [joined_cons, behind, Slot.text]
      split
      · next hnone =>
        rw [List.append_nil, slot.splitArguments_around slot.blank_before slot.blank_after,
          hnone.1]
        rfl
      · rw [slot.splitArguments_around_comma slot.blank_before slot.blank_after, ih, List.map_cons]

end

end Slot

namespace ArgumentList

variable (list : ArgumentList) (pre post : Text) (i : Fin list.slots.length)

lemma slots_eq : list.slots = list.slots.take i ++ list.slot i :: list.slots.drop (i + 1) := by
  simp [slot]

lemma text_eq : list.text = lead (list.slots.take i) ++
    ((list.slot i).text ++ behind list.ending (list.slots.drop (i + 1))) := by
  have htext := Slot.joined_append list.ending (list.slot i) (list.slots.drop (i + 1))
    (list.slots.take i)
  rwa [← list.slots_eq i] at htext

lemma file_eq : list.file pre post = list.front pre i ++ (list.slot i).argument ++
    ((list.slot i).after ++ behind list.ending (list.slots.drop (i + 1)) ++ ')' :: post) := by
  rw [file, list.text_eq i, front, Slot.text]
  simp

end ArgumentList

/-! ## The deletion -/

namespace Text

lemma firstLine_append {l : Text} (h : '\n' ∉ l) (t : Text) :
    firstLine (l ++ t) = l ++ firstLine t := by
  have hline : ∀ c ∈ l, decide (c ≠ '\n') = true :=
    fun c hc => decide_eq_true fun heq => h (heq ▸ hc)
  rw [firstLine, List.takeWhile_append_of_pos hline, ← firstLine]

lemma lastLine_append {l : Text} (h : '\n' ∉ l) (t : Text) :
    lastLine (t ++ l) = lastLine t ++ l := by
  have hline := firstLine_append (fun hmem => h (List.mem_reverse.mp hmem)) t.reverse
  rw [lastLine, List.reverse_append, ← firstLine, hline, List.reverse_append, List.reverse_reverse,
    firstLine, ← lastLine]

/-- What is left when the text between two of its beginnings is deleted. -/
lemma take_append_drop_of_prefix {a b rest t : Text} (ha : a <+: t) (hb : t = b ++ rest) :
    t.take a.length ++ [] ++ t.drop b.length = a ++ rest := by
  rw [← List.prefix_iff_eq_take.mp ha, hb, List.drop_left, List.append_nil]

end Text

/-- A position behind a character that is not blank is not among the carriage returns at the end of
its line. -/
lemma Snapshot.not_inReturns (u : Text) {c : Char} (hc : ¬ isBlank c) (v : Text) :
    ¬ (ofText (u ++ [c] ++ v)).InReturns (Text.endPosition (u ++ [c])) := by
  have hfeed : '\n' ∉ [c] := fun h => hc (List.mem_singleton.mp h ▸ by decide)
  have hreturn : c ≠ '\r' := fun h => hc (h ▸ by decide)
  obtain ⟨returns, hline, hreturns⟩ := Text.exists_append_dropEndWhile (· == '\r')
    (Text.lastLine (u ++ [c]) ++ v.firstLine)
  rw [← Text.dropEndReturns, Text.lastLine_append hfeed u] at hline
  have hmem : c ∉ returns := fun h => hreturn (beq_iff_eq.mp (hreturns c h))
  obtain ⟨more, hkept, -⟩ := Text.end_of_append_cons hmem
    (hline.symm.trans (List.append_assoc u.lastLine [c] v.firstLine))
  rw [InReturns, Text.endPosition_eq, lineAt_append, Text.lastLine_append hfeed u, hkept]
  simp only [Text.units_append, Text.units_cons, Text.units_nil]
  omega

namespace Rule

/-- **The comma behind an argument is found**, on the same line or on the next one. -/
lemma comma_mem_separatorAfter {g : Text} (hg : isLayout g) (hnear : g.count '\n' ≤ 1) (t : Text) :
    ',' ∈ separatorAfter (g ++ ',' :: t) := by
  have hcomma : '\n' ∉ [','] := by decide
  have hfound : ∀ {l : Text}, (∀ c ∈ l, isGap c) → '\n' ∉ l →
      commaAhead? (Text.firstLine (l ++ ',' :: t))
        = some (l ++ ',' :: t.firstLine.takeWhile isGap) := by
    intro l hl hline
    have hfirst : Text.firstLine (',' :: t) = ',' :: t.firstLine := Text.firstLine_append hcomma t
    rw [Text.firstLine_append hline, hfirst, commaAhead?_append hl]
  by_cases hmem : '\n' ∈ g
  · obtain ⟨l, r, rfl, hl⟩ := List.eq_append_cons_of_mem hmem
    have hr : '\n' ∉ r := by
      rw [List.count_append, List.count_cons_self] at hnear
      exact fun h => absurd (List.count_pos_iff.mpr h) (by omega)
    have hblank : Text.isBlankText l := List.all_eq_true.mpr fun c hc =>
      isBlank_of_isLayout hg c (List.mem_append_left _ hc)
    have hnone : commaAhead? l = none := Option.eq_none_iff_forall_not_mem.mpr fun comma h => by
      obtain ⟨front, back, rest, rfl, -⟩ := of_commaAhead? h
      exact absurd (List.all_eq_true.mp hblank ',' (by simp)) (by decide)
    have hfirst : Text.firstLine (l ++ '\n' :: r ++ ',' :: t) = l := by
      rw [List.append_assoc]
      exact Text.firstLine_append_newline hl _
    have hbelow := hfound (isGap_of_isLayout (isLayout_below hg) hr) hr
    rw [separatorAfter, hfirst, hnone]
    simp [hblank, hbelow]
  · rw [separatorAfter, hfound (isGap_of_isLayout hg hmem) hmem]
    simp

namespace Takes

variable {w a x b z : Text} {q : Range}

lemma not_mem (h : Takes w a x b z q) {c : Char} (hblank : ¬ isBlank c) (hcomma : c ≠ ',') :
    c ∉ a ++ b := fun hc => (h.blank_or_comma c hc).elim hblank hcomma

/-- Around the one comma, everything is blank. -/
lemma blank_around_comma (h : Takes w a x b z q) {front back : Text}
    (heq : a ++ b = front ++ ',' :: back) :
    (∀ c ∈ front, isBlank c) ∧ ∀ c ∈ back, isBlank c := by
  have honce := h.comma_once
  rw [heq, List.count_append, List.count_cons_self] at honce
  have hfront : ',' ∉ front := List.count_eq_zero.mp (by omega)
  have hback : ',' ∉ back := List.count_eq_zero.mp (by omega)
  have hblank := h.blank_or_comma
  rw [heq] at hblank
  refine ⟨fun c hc => ?_, fun c hc => ?_⟩
  · exact (hblank c (by simp [hc])).resolve_right fun hcomma => hfront (hcomma ▸ hc)
  · exact (hblank c (by simp [hc])).resolve_right fun hcomma => hback (hcomma ▸ hc)

/-- What is left when the deletion is applied. -/
lemma content_eq (h : Takes w a x b z q) (code : Text) :
    (applyFixes (.ofText (w ++ a ++ x ++ b ++ z)) [.ofEdit (.deletion q) code]).content
      = w ++ z := by
  have hcontent := Text.take_append_drop_of_prefix
    (show w <+: w ++ a ++ x ++ b ++ z from ⟨a ++ x ++ b ++ z, by simp⟩) rfl
  rw [← h.stop_eq, ← h.start_eq] at hcontent
  exact hcontent

end Takes

section

variable {pre post : Text} {slots : List Slot} {slot : Slot} {w a x b z : Text} {q : Range}

/-- Blanks that go before an argument are from the gap in front of it. -/
lemma exists_before (ha : ∀ c ∈ a, isBlank c)
    (hu : w ++ a = pre ++ '(' :: (lead slots ++ slot.before)) :
    ∃ g, w = pre ++ '(' :: (lead slots ++ g) ∧ ∀ c ∈ g, isBlank c := by
  have hcut : ∀ (front : Text) (c : Char), ¬ isBlank c →
      w ++ a = front ++ c :: slot.before → ∃ g, w = front ++ c :: g ∧ ∀ d ∈ g, isBlank d := by
    intro front c hc heq
    have hmem : c ∉ a := fun h => hc (ha c h)
    obtain ⟨g, hw, hbefore⟩ := Text.end_of_append_cons hmem heq
    exact ⟨g, hw, fun d hd => slot.blank_before d (hbefore ▸ List.mem_append_left a hd)⟩
  rcases slots.eq_nil_or_concat with rfl | ⟨init, last, rfl⟩
  · exact hcut pre '(' (by decide) hu
  · rw [List.concat_eq_append, Slot.lead_concat] at hu ⊢
    obtain ⟨g, hw, hg⟩ := hcut (pre ++ '(' :: (lead init ++ last.text)) ',' (by decide)
      (by rw [hu]; simp)
    exact ⟨g, by rw [hw]; simp, hg⟩

/-- A comma that goes before an argument is the one that ends the argument before it. -/
lemma exists_before_comma {a' : Text} (ha : ∀ c ∈ a, isBlank c) (ha' : ∀ c ∈ a', isBlank c)
    (hu : w ++ (a ++ ',' :: a') = pre ++ '(' :: (lead slots ++ slot.before)) :
    ∃ init last g, slots = init ++ [last] ∧
      w = pre ++ '(' :: (lead init ++ (last.before ++ last.argument ++ g)) ∧
      ∀ c ∈ g, isBlank c := by
  have hcomma : ∀ {g : Text}, (∀ c ∈ g, isBlank c) → ',' ∉ g :=
    fun hg hc => absurd (hg _ hc) (by decide)
  rcases slots.eq_nil_or_concat with rfl | ⟨init, last, rfl⟩
  · -- The opening bracket is nearer than any comma.
    have hopen : '(' ∉ a ++ ',' :: a' := fun hc => by
      rcases List.mem_append.mp hc with hc | hc
      · exact absurd (ha _ hc) (by decide)
      · exact absurd (ha' _ ((List.mem_cons.mp hc).resolve_left (by decide))) (by decide)
    obtain ⟨g, -, hg⟩ := Text.end_of_append_cons hopen hu
    refine absurd ?_ (hcomma slot.blank_before)
    rw [show slot.before = g ++ (a ++ ',' :: a') from hg]
    simp
  · rw [List.concat_eq_append, Slot.lead_concat] at hu
    have heq : w ++ a ++ ',' :: a'
        = pre ++ '(' :: (lead init ++ last.text) ++ ',' :: slot.before := by simpa using hu
    obtain ⟨hw, -⟩ := Text.cut_last (hcomma ha') (hcomma slot.blank_before) heq
    obtain ⟨cs, c, hlast, hc⟩ := last.exists_last
    have hmem : c ∉ a := fun h => hc (ha c h)
    have heq' : w ++ a = pre ++ '(' :: (lead init ++ (last.before ++ cs)) ++ c :: last.after := by
      rw [hw, Slot.text, hlast]
      simp
    obtain ⟨g, rfl, hg⟩ := Text.end_of_append_cons hmem heq'
    refine ⟨init, last, g, List.concat_eq_append, by simp [hlast], fun d hd => ?_⟩
    exact last.blank_after d (hg ▸ List.mem_append_left a hd)

/-- **An argument with the comma behind it.**  What follows moves up to what stood before. -/
lemma Takes.removes_with_comma {more : Text} (h : Takes w a x b z q)
    (hu : w ++ a = pre ++ '(' :: (lead slots ++ slot.before))
    (hv : b ++ z = slot.after ++ ',' :: (more ++ ')' :: post)) (hcomma : ',' ∈ b) :
    ∃ body, w ++ z = pre ++ '(' :: body ++ ')' :: post ∧
      splitArguments body = slots.map Slot.argument ++ splitArguments more := by
  obtain ⟨b₁, b₂, rfl, hb₁⟩ := List.eq_append_cons_of_mem hcomma
  obtain ⟨hfront, hb₂⟩ := h.blank_around_comma (List.append_assoc a b₁ (',' :: b₂)).symm
  obtain ⟨g, rfl, hg⟩ := exists_before (fun c hc => hfront c (List.mem_append_left b₁ hc)) hu
  have hafter : ',' ∉ slot.after := fun hc => absurd (slot.blank_after _ hc) (by decide)
  rw [List.append_assoc, List.cons_append] at hv
  obtain ⟨-, hmore⟩ := Text.cut_first hb₁ hafter hv
  have hbracket : ')' ∉ b₂ := fun hc => absurd (hb₂ _ hc) (by decide)
  obtain ⟨t, rfl, rfl⟩ := Text.beginning_of_append_cons hbracket hmore
  refine ⟨lead slots ++ (g ++ t), by simp, ?_⟩
  rw [Slot.splitArguments_lead, splitArguments_blank_append hg, splitArguments_blank_append hb₂]

/-- **An argument at the end.**  Either the comma before it stays, as a last comma, or it goes, and
the argument before it is the last one. -/
lemma Takes.removes_last (h : Takes w a x b z q)
    (hu : w ++ a = pre ++ '(' :: (lead slots ++ slot.before))
    (hv : b ++ z = slot.after ++ ')' :: post) :
    ∃ body, w ++ z = pre ++ '(' :: body ++ ')' :: post ∧
      splitArguments body = slots.map Slot.argument := by
  have hbracket : ')' ∉ b := fun hc =>
    h.not_mem (by decide) (by decide) (List.mem_append_right a hc)
  obtain ⟨g', hafter, rfl⟩ := Text.beginning_of_append_cons hbracket hv
  have hg' : ∀ c ∈ g', isBlank c :=
    fun c hc => slot.blank_after c (hafter ▸ List.mem_append_right b hc)
  by_cases hcomma : ',' ∈ a
  · obtain ⟨a₁, a₂, rfl, -⟩ := List.eq_append_cons_of_mem hcomma
    obtain ⟨ha₁, ha₂⟩ := h.blank_around_comma (List.append_assoc a₁ (',' :: a₂) b)
    obtain ⟨init, last, g, rfl, rfl, hg⟩ :=
      exists_before_comma ha₁ (fun c hc => ha₂ c (List.mem_append_left b hc)) hu
    have hblank : ∀ c ∈ g ++ g', isBlank c := fun c hc =>
      (List.mem_append.mp hc).elim (hg c) (hg' c)
    refine ⟨lead init ++ (last.before ++ last.argument ++ (g ++ g')), by simp, ?_⟩
    rw [Slot.splitArguments_lead, last.splitArguments_around last.blank_before hblank]
    simp
  · have ha : ∀ c ∈ a, isBlank c := fun c hc =>
      (h.blank_or_comma c (List.mem_append_left b hc)).resolve_right fun heq => hcomma (heq ▸ hc)
    obtain ⟨g, rfl, hg⟩ := exists_before ha hu
    refine ⟨lead slots ++ (g ++ g'), by simp, ?_⟩
    rw [Slot.splitArguments_lead, splitArguments_blank_append hg, splitArguments_blank hg',
      List.append_nil]

end

/-- **A call with one argument less.**  The redundant argument may stand anywhere in the list, and
the list in any layout. -/
theorem implicitArgument_removes_one (list : ArgumentList) (pre post : Text)
    (i : Fin list.slots.length) (d : Diagnostic) (hrange : d.range = list.rangeAt pre i) :
    splitArguments list.text = list.args ∧
      ∃ edit body, implicitArgument.edit? d (.ofText (list.file pre post)) = some edit ∧
        (applyFixes (.ofText (list.file pre post)) [.ofEdit edit d.code]).content
          = pre ++ '(' :: body ++ ')' :: post ∧
        splitArguments body = list.args.eraseIdx i := by
  refine ⟨Slot.splitArguments_joined list.ending list.layout_ending list.slots,
    .deletion (argumentRange (.ofText (list.file pre post)) d.range), ?_⟩
  have herase : list.args.eraseIdx i = (list.slots.take i).map Slot.argument ++
      (list.slots.drop (i + 1)).map Slot.argument := by
    rw [ArgumentList.args, List.eraseIdx_eq_take_drop_succ, List.map_take, List.map_drop]
  obtain ⟨cs, c, hlast, hc⟩ := (list.slot i).exists_last
  have hreturns := Snapshot.not_inReturns (list.front pre i ++ cs) hc
    ((list.slot i).after ++ behind list.ending (list.slots.drop (i + 1)) ++ ')' :: post)
  rw [List.append_assoc _ cs, ← hlast] at hreturns
  obtain ⟨w, a, b, z, hu, hv, hcomma, htakes⟩ := takes_argumentRange hreturns
  have hfile : list.file pre post = w ++ a ++ (list.slot i).argument ++ b ++ z := by
    rw [list.file_eq pre post i, hv, hu]
    simp
  have hcontent := htakes.content_eq d.code
  rw [← hfile, ← list.file_eq pre post i] at hcontent
  suffices hbody : ∃ body, w ++ z = pre ++ '(' :: body ++ ')' :: post ∧
      splitArguments body = list.args.eraseIdx i by
    obtain ⟨body, hwz, hsplit⟩ := hbody
    exact ⟨body, rfl, by rw [hrange, ← hwz, ← hcontent]; rfl, hsplit⟩
  rw [herase]
  by_cases hnone : list.slots.drop (i + 1) = [] ∧ list.ending = none
  · rw [behind, if_pos hnone, List.append_nil] at hv
    rw [hnone.1, List.map_nil, List.append_nil]
    exact htakes.removes_last hu.symm hv.symm
  · have hnear : (list.slot i).after.count '\n' ≤ 1 := by
      refine list.near i (Decidable.or_iff_not_not_and_not.mpr fun hneither => hnone ?_)
      rw [List.drop_eq_nil_iff]
      exact ⟨Nat.le_of_not_lt hneither.1, by simpa using hneither.2⟩
    rw [behind, if_neg hnone, List.append_assoc, List.cons_append] at hv hcomma
    have hmem := hcomma.subset (comma_mem_separatorAfter (list.slot i).layout_after hnear _)
    rw [← Slot.splitArguments_joined list.ending list.layout_ending (list.slots.drop (i + 1))]
    exact htakes.removes_with_comma hu.symm hv.symm hmem

/-- Three arguments over several lines: a literal and a pair of brackets hold commas, the second
comma stands below its argument, and the list ends in a comma. -/
def spreadList : ArgumentList where
  slots := [
    { before := "\r\n  ", argument := "\"😀,\"", after := "  " },
    { before := "\r\n  ", argument := "f(x,\r\n   y)", after := "\r\n\t" },
    { before := "  ", argument := "g", after := "  " }]
  ending := some "\r\n"

theorem implicitArgument_removes_one_spread :
    let d : Diagnostic := ⟨"A.mo", .ofCoords 2 2 3 5, "M0237", "redundant", .warning⟩
    let s : Snapshot := .ofText (spreadList.file "h" ";\r\n")
    spreadList.text = "\r\n  \"😀,\"  ,\r\n  f(x,\r\n   y)\r\n\t,  g  ,\r\n".toList ∧
      ∃ edit body, implicitArgument.edit? d s = some edit ∧
        (applyFixes s [.ofEdit edit d.code]).content = "h(".toList ++ body ++ ");\r\n".toList ∧
        splitArguments body = ["\"😀,\"".toList, "g".toList] := by
  intro d s
  refine ⟨by decide, ?_⟩
  obtain ⟨-, edit, body, hedit, hcontent, hsplit⟩ :=
    implicitArgument_removes_one spreadList "h" ";\r\n" ⟨1, by decide⟩ d (by decide)
  exact ⟨edit, body, hedit, hcontent, hsplit⟩

end Rule

end Amend
