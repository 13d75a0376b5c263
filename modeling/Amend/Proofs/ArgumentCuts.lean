import Amend.Proofs.CallGrammar

/-!
# Where arguments are cut

`splitArguments` reads a text once and cuts it on the way.  Which commas it cuts at can be said
without a scan, for every text, whether its brackets and literals are balanced or not.

**Outside.**  `Outside t depth` is a grammar of texts that end outside of every literal, with
`depth` more brackets opened than closed.  A literal goes from one mark to the next of its kind, and
a backslash in it takes the character behind it along.  The scan is in code behind exactly these
texts (`Nesting.inside_run_iff`).

**Cuts.**  `CutInto` describes the pieces: with commas between them they are the text, and they part
at those commas before which the text ends outside, at depth zero.

**Cutting again.**  A piece before a comma ends outside of literals, so that stripping takes nothing
from a literal of it.  The arguments, joined with other blanks, are therefore cut as they were
(`splitArguments_again`).
-/

namespace Amend

open Nesting (start)

/-! ## Texts that end outside of literals -/

/-- What stands in a literal between its marks. -/
inductive LiteralBody (mark : Char) : Text → Prop
  | nil : LiteralBody mark []
  | plain {c : Char} {t : Text} : c ≠ '\\' → c ≠ mark → LiteralBody mark t →
      LiteralBody mark (c :: t)
  | escaped {t : Text} (c : Char) : LiteralBody mark t → LiteralBody mark ('\\' :: c :: t)

/-- **The text ends outside of every literal**, and it has opened `depth` more brackets than it has
closed.  The depth may be negative. -/
inductive Outside : Text → (depth : Int) → Prop
  | nil : Outside [] 0
  | plain {c : Char} {t : Text} {depth : Int} : ¬ Nesting.isMark c → ¬ Nesting.isOpener c →
      ¬ Nesting.isCloser c → Outside t depth → Outside (c :: t) depth
  | opener {c : Char} {t : Text} {depth : Int} : Nesting.isOpener c → Outside t depth →
      Outside (c :: t) (depth + 1)
  | closer {c : Char} {t : Text} {depth : Int} : Nesting.isCloser c → Outside t depth →
      Outside (c :: t) (depth - 1)
  | literal {mark : Char} {body t : Text} {depth : Int} : Nesting.isMark mark →
      LiteralBody mark body → Outside t depth → Outside (mark :: body ++ mark :: t) depth

namespace Nesting

variable {m n o : Nesting} {c mark : Char} {body t : Text} {depth : Int}

lemma Inside.trans {a b : Int} (h : Inside a m n) (h' : Inside b n o) : Inside (a + b) m o where
  mode_eq := h.mode_eq.trans h'.mode_eq
  depth_eq := by rw [h.depth_eq, h'.depth_eq]; omega

/-! ### One character of code -/

lemma step_mark (hmode : n.mode = .code) (h : isMark c) :
    n.step c = { n with mode := .literal c } := by
  simp [step, hmode, h]

lemma inside_closer (hmode : n.mode = .code) (h : isCloser c) : Inside (-1) (n.step c) n := by
  have hothers : isMark c = false ∧ isOpener c = false := by
    simp only [isCloser, Bool.or_eq_true, beq_iff_eq] at h
    rcases h with (rfl | rfl) | rfl <;> exact ⟨rfl, rfl⟩
  constructor <;> simp [step, hmode, hothers, h, Int.sub_eq_add_neg]

/-! ### Literals -/

/-- In a literal, the scan stays where it is. -/
lemma run_literalBody (hmode : n.mode = .literal mark) (h : LiteralBody mark body) :
    n.run body = n := by
  obtain ⟨mode, d, proper⟩ := n
  obtain rfl : mode = .literal mark := hmode
  induction h with
  | nil => rfl
  | plain hescape hmark _ ih =>
      rw [run_cons]
      simpa only [step, if_neg hescape, if_neg hmark] using ih
  | escaped c _ ih =>
      rw [run_cons, run_cons]
      simpa only [step, if_true] using ih

/-- Behind a literal, the scan is where it was before. -/
lemma run_literal (hmode : n.mode = .code) (hmark : isMark mark) (hbody : LiteralBody mark body)
    (t : Text) : n.run (mark :: body ++ mark :: t) = n.run t := by
  have hescape : mark ≠ '\\' := by
    rintro rfl
    exact absurd hmark (by decide)
  have hclose : step { n with mode := .literal mark } mark = n := by
    obtain ⟨mode, d, proper⟩ := n
    obtain rfl : mode = .code := hmode
    simp [step, hescape]
  rw [List.cons_append, run_cons, step_mark hmode hmark, run_append, run_literalBody rfl hbody,
    run_cons, hclose]

/-! ### The scan and the grammar -/

lemma inside_run_of_outside (hmode : n.mode = .code) (h : Outside t depth) :
    Inside depth (n.run t) n := by
  induction h generalizing n with
  | nil => exact ⟨rfl, (Int.add_zero _).symm⟩
  | plain hmark hopener hcloser _ ih =>
      rw [run_cons, step_plain hmode hmark hopener hcloser]
      exact ih hmode
  | opener hopener _ ih =>
      have hstep := inside_opener hmode hopener
      exact (ih (hstep.mode_eq.trans hmode)).trans hstep
  | closer hcloser _ ih =>
      have hstep := inside_closer hmode hcloser
      exact (ih (hstep.mode_eq.trans hmode)).trans hstep
  | literal hmark hbody _ ih =>
      rw [run_literal hmode hmark hbody]
      exact ih hmode

/-- What a text looks like that leads a scan from the given mode out of every literal. -/
def LeadsOut : Mode → Text → (depth : Int) → Prop
  | .code, t, depth => Outside t depth
  | .literal mark, t, depth => ∃ body rest, t = body ++ mark :: rest ∧ LiteralBody mark body ∧
      Outside rest depth
  | .escape mark, t, depth => ∃ c body rest, t = c :: body ++ mark :: rest ∧
      LiteralBody mark body ∧ Outside rest depth

/-- One more character in front, in code. -/
lemma leadsOut_step_code (hmode : n.mode = .code)
    (h : LeadsOut (n.step c).mode t (depth - (n.step c).depth)) :
    Outside (c :: t) (depth - n.depth) := by
  by_cases hmark : isMark c
  · rw [step_mark hmode hmark] at h
    obtain ⟨body, rest, rfl, hbody, hrest⟩ := h
    exact .literal hmark hbody hrest
  by_cases hopener : isOpener c
  · have hstep := inside_opener hmode hopener
    have hdepth : depth - n.depth = depth - (n.step c).depth + 1 := by rw [hstep.depth_eq]; omega
    rw [hstep.mode_eq, hmode] at h
    rw [hdepth]
    exact .opener hopener h
  by_cases hcloser : isCloser c
  · have hstep := inside_closer hmode hcloser
    have hdepth : depth - n.depth = depth - (n.step c).depth - 1 := by rw [hstep.depth_eq]; omega
    rw [hstep.mode_eq, hmode] at h
    rw [hdepth]
    exact .closer hcloser h
  · rw [step_plain hmode hmark hopener hcloser, hmode] at h
    exact .plain hmark hopener hcloser h

/-- And in a literal. -/
lemma leadsOut_step_literal (hmode : n.mode = .literal mark)
    (h : LeadsOut (n.step c).mode t (depth - (n.step c).depth)) :
    LeadsOut (.literal mark) (c :: t) (depth - n.depth) := by
  by_cases hescape : c = '\\'
  · simp only [step, hmode, if_pos hescape] at h
    obtain ⟨c', body, rest, rfl, hbody, hrest⟩ := h
    exact ⟨c :: c' :: body, rest, rfl, hescape ▸ .escaped c' hbody, hrest⟩
  by_cases hmark : c = mark
  · simp only [step, hmode, if_neg hescape, if_pos hmark] at h
    exact ⟨[], t, by rw [hmark]; rfl, .nil, h⟩
  · simp only [step, hmode, if_neg hescape, if_neg hmark] at h
    obtain ⟨body, rest, rfl, hbody, hrest⟩ := h
    exact ⟨c :: body, rest, rfl, .plain hescape hmark hbody, hrest⟩

/-- **One more character in front.** -/
lemma leadsOut_step (h : LeadsOut (n.step c).mode t (depth - (n.step c).depth)) :
    LeadsOut n.mode (c :: t) (depth - n.depth) := by
  cases hmode : n.mode with
  | code => exact leadsOut_step_code hmode h
  | literal mark => exact leadsOut_step_literal hmode h
  | escape mark =>
      simp only [step, hmode] at h
      obtain ⟨body, rest, rfl, hbody, hrest⟩ := h
      exact ⟨c, body, rest, rfl, hbody, hrest⟩

/-- **A scan that ends in code has read a text that leads there.** -/
lemma leadsOut_of_run (h : (n.run t).mode = .code) :
    LeadsOut n.mode t ((n.run t).depth - n.depth) := by
  induction t generalizing n with
  | nil =>
      have hmode : n.mode = .code := h
      rw [hmode, run, List.foldl_nil, Int.sub_self]
      exact Outside.nil
  | cons c t ih => exact leadsOut_step (ih h)

/-- **The scan is in code behind the texts that end outside of literals**, as deep as these say. -/
lemma inside_run_iff (hmode : n.mode = .code) : Inside depth (n.run t) n ↔ Outside t depth := by
  refine ⟨fun h => ?_, inside_run_of_outside hmode⟩
  have hleads := leadsOut_of_run (h.mode_eq.trans hmode)
  have hdepth : (n.run t).depth - n.depth = depth := by rw [h.depth_eq]; omega
  rwa [hmode, hdepth] at hleads

lemma isTop_run_iff : (start.run t).isTop ↔ Outside t 0 := by
  rw [← inside_run_iff (n := start) rfl, isTop, Bool.and_eq_true, beq_iff_eq, beq_iff_eq]
  exact ⟨fun h => ⟨h.1, h.2⟩, fun h => ⟨h.mode_eq, h.depth_eq⟩⟩

end Nesting

/-! ## Cuts -/

/-- The pieces part at a comma: some of them make up the text before it, and the others the text
behind it. -/
def PartAt (pieces : List Text) (before behind : Text) : Prop :=
  ∃ ps qs, pieces = ps ++ qs ∧ ps ≠ [] ∧ qs ≠ [] ∧ Text.joinWith [','] ps = before ∧
    Text.joinWith [','] qs = behind

/-- **The pieces that a text is cut into**: they lose nothing of it, and of its commas they part at
those that stand outside of literals and brackets. -/
structure CutInto (t : Text) (pieces : List Text) : Prop where
  joined : Text.joinWith [','] pieces = t
  part_iff : ∀ before behind, t = before ++ ',' :: behind →
    (PartAt pieces before behind ↔ Outside before 0)

lemma not_partAt_singleton (p before behind : Text) : ¬ PartAt [p] before behind := by
  rintro ⟨ps, qs, hpieces, hps, hqs, -, -⟩
  have hlength := congrArg List.length hpieces
  have hps' := List.length_pos_iff.mpr hps
  have hqs' := List.length_pos_iff.mpr hqs
  rw [List.length_append, List.length_singleton] at hlength
  omega

/-- Pieces part behind the first of them, or further back. -/
lemma partAt_cons_iff {p : Text} {pieces : List Text} (hne : pieces ≠ []) {before behind : Text} :
    PartAt (p :: pieces) before behind ↔
      (before = p ∧ Text.joinWith [','] pieces = behind) ∨
        ∃ b, before = p ++ ',' :: b ∧ PartAt pieces b behind := by
  constructor
  · rintro ⟨ps, qs, hpieces, hps, hqs, rfl, rfl⟩
    obtain ⟨q, ps, rfl⟩ := List.exists_cons_of_ne_nil hps
    obtain ⟨rfl, rfl⟩ := List.cons_eq_cons.mp hpieces
    by_cases hnil : ps = []
    · subst hnil
      exact Or.inl ⟨by simp [Text.joinWith], rfl⟩
    · exact Or.inr ⟨_, Text.joinWith_cons hnil, ps, qs, rfl, hnil, hqs, rfl, rfl⟩
  · rintro (⟨rfl, rfl⟩ | ⟨b, rfl, ps, qs, rfl, hps, hqs, rfl, rfl⟩)
    · exact ⟨[before], pieces, rfl, by simp, hne, by simp [Text.joinWith], rfl⟩
    · exact ⟨p :: ps, qs, rfl, by simp, hqs, Text.joinWith_cons hps, rfl⟩

/-- Behind a comma that separates, the same commas separate as in the rest by itself. -/
lemma isTop_run_comma {p : Text} (htop : (start.run p).isTop) (b : Text) :
    (start.run (p ++ ',' :: b)).isTop = (start.run b).isTop := by
  rw [Nesting.run_append, Nesting.run_cons]
  exact ((Nesting.inside_comma htop).run b).isTop_eq

/-- **A text is cut at the commas outside of literals and brackets.** -/
lemma partAt_cutFrom_iff (t : Text) : ∀ before behind, t = before ++ ',' :: behind →
    (PartAt (cutFrom .start t) before behind ↔ (start.run before).isTop) := by
  induction t using cut_induction with
  | last p huncut =>
      intro before behind hp
      rw [cutFrom_uncut huncut]
      exact iff_of_false (not_partAt_singleton p before behind) (huncut before behind hp)
  | more p t huncut htop ih =>
      intro before behind heq
      rw [cutFrom_comma huncut htop, partAt_cons_iff (cutFrom_ne_nil _ _)]
      constructor
      · rintro (⟨rfl, -⟩ | ⟨b, rfl, hpart⟩)
        · exact htop
        · have ht : t = b ++ ',' :: behind := by simpa using heq
          rw [isTop_run_comma htop]
          exact (ih b behind ht).mp hpart
      · intro hbefore
        rcases Text.cut_cases heq with ⟨rfl, rfl⟩ | ⟨b, rfl, ht⟩ | ⟨b, hp⟩
        · exact Or.inl ⟨rfl, joinWith_cutFrom _ .start⟩
        · rw [isTop_run_comma htop] at hbefore
          exact Or.inr ⟨b, rfl, (ih b behind ht).mpr hbefore⟩
        · exact absurd hbefore (huncut before b hp)

lemma cutInto_cutFrom (t : Text) : CutInto t (cutFrom .start t) where
  joined := joinWith_cutFrom t .start
  part_iff before behind ht := (partAt_cutFrom_iff t before behind ht).trans Nesting.isTop_run_iff

/-! ## Arguments -/

lemma Text.strip_eq_nil_iff {t : Text} : t.strip = [] ↔ t.isBlankText := by
  rw [isBlankText, List.all_eq_true]
  refine ⟨isBlank_of_strip_eq_nil, fun h => ?_⟩
  have hnone := strip_blank_append h []
  rwa [List.append_nil] at hnone

/-- The last piece counts unless it is blank; all others count. -/
lemma splitArguments_of_cutFrom {t last : Text} {init : List Text}
    (h : cutFrom .start t = init ++ [last]) :
    splitArguments t = init.map Text.strip ++ if last.isBlankText then [] else [last.strip] := by
  have hblank : last.strip.isEmpty = last.isBlankText := by
    rw [Bool.eq_iff_iff, List.isEmpty_iff, Text.strip_eq_nil_iff]
  simp only [splitArguments, h, List.map_append, List.map_singleton, List.getLast?_concat,
    Option.getD_some, hblank, List.dropLast_concat]
  split <;> simp

/-- A stripped piece is its own argument. -/
lemma splitArguments_strip {p : Text} (h : Uncut start p) (hne : p.strip ≠ []) :
    splitArguments p.strip = [p.strip] := by
  have hsplit := splitArguments_uncut h.strip (by rwa [p.strip_strip])
  rwa [p.strip_strip] at hsplit

/-- **Arguments that are joined are cut as before**, unless the last one is empty. -/
lemma splitArguments_again (t : Text) (h : (splitArguments t).getLast? ≠ some []) :
    splitArguments (Text.joinWith ", " (splitArguments t)) = splitArguments t := by
  induction t using cut_induction with
  | last p huncut =>
      by_cases hblank : p.strip = []
      · rw [splitArguments_blank (Text.isBlank_of_strip_eq_nil hblank)]
        rfl
      · rw [splitArguments_uncut huncut hblank]
        simpa [Text.joinWith] using splitArguments_strip huncut hblank
  | more p t huncut htop ih =>
      -- Before a comma that separates, the blanks at the end of the piece are in no literal.
      have hmode : (start.run p).mode = .code := by
        rw [Nesting.isTop, Bool.and_eq_true, beq_iff_eq] at htop
        exact htop.1
      have htop' : (start.run p.strip).isTop := by rwa [Nesting.run_strip hmode]
      rw [splitArguments_comma huncut htop] at h ⊢
      by_cases hargs : splitArguments t = []
      · rw [hargs] at h ⊢
        have hne : p.strip ≠ [] := by simpa using h
        simpa [Text.joinWith] using splitArguments_strip huncut hne
      · rw [splitArguments_joinWith_cons huncut.strip htop' p.strip_strip hargs, ih]
        rwa [List.getLast?_cons_of_ne_nil hargs] at h

/-- **Where arguments are cut.**  A text, balanced or not, is cut at the commas outside of literals
and brackets.  The arguments are the pieces without the blanks around them, and of blank pieces only
one at the end is no argument.  Joined with a comma and a space, the arguments are cut as before,
unless the last one is empty. -/
theorem splitArguments_cuts (t : Text) :
    (∃ init last, CutInto t (init ++ [last]) ∧
        splitArguments t
          = init.map Text.strip ++ if last.isBlankText then [] else [last.strip]) ∧
      ((splitArguments t).getLast? ≠ some [] →
        splitArguments (Text.joinWith ", " (splitArguments t)) = splitArguments t) := by
  obtain ⟨init, last, hpieces⟩ :=
    (List.eq_nil_or_concat' (cutFrom .start t)).resolve_left (cutFrom_ne_nil _ _)
  have hcut := cutInto_cutFrom t
  rw [hpieces] at hcut
  exact ⟨⟨init, last, hcut, splitArguments_of_cutFrom hpieces⟩, splitArguments_again t⟩

/-- A text with a bracket too many: the first comma stands at depth minus one, the second outside,
and the third in a literal. -/
theorem splitArguments_cuts_unbalanced :
    let t : Text := ") , (x, \"a, \\\" b\" ,\n c "
    let args : List Text := [") , (x", "\"a, \\\" b\"", "c"]
    splitArguments t = args ∧ args.getLast? ≠ some [] ∧
      splitArguments (Text.joinWith ", " args) = args := by
  intro t args
  have hargs : splitArguments t = args := by decide +kernel
  have hlast : args.getLast? ≠ some [] := by decide
  have hagain := (splitArguments_cuts t).2 (by rwa [hargs])
  rw [hargs] at hagain
  exact ⟨hargs, hlast, hagain⟩

end Amend
