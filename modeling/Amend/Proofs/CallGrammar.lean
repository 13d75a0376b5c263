import Amend.Proofs.ArgumentLists

/-!
# The grammar of calls

Which texts are calls, and what becomes of a call that is written anew from its parts.

**Depth.**  `Nesting.isClosed` rests on a flag that the scan carries along.  `Balanced` says the
same of the depth alone: it is at no time below zero, and back at zero in the end, outside every
literal.  In brackets, a balanced text is one whose last bracket closes the first
(`closesFirst_iff`).

**Arguments.**  Cutting a balanced text at its commas leaves pieces, each of which is balanced by
itself (`closed_induction`).  The blanks that are stripped from a piece do not stand in a literal
(`IsPiece.strip`), so the arguments are pieces too, and joined with other blanks between them they
are cut as before (`splitArguments_joinWith`).

**Calls.**  `Call.parse?_eq_some_iff` is the grammar.  A call that is written from its callee and
its arguments reads back as itself, and a call that has been turned around reads as a call of the
method with the arguments that are left.
-/

namespace Amend

open Nesting (start)

/-! ## Depth -/

/-- **Every bracket and every literal ends that begins, and no other.** -/
structure Balanced (t : Text) : Prop where
  depth_nonneg : ∀ p, p <+: t → 0 ≤ (start.run p).depth
  mode_eq : (start.run t).mode = .code
  depth_eq : (start.run t).depth = 0

/-- **The last bracket closes the first.**  The scan opens a bracket with the first character, and
is outside of it again only behind the last. -/
structure ClosesFirst (t : Text) : Prop where
  depth_pos : ∀ p, p <+: t → p ≠ [] → p ≠ t → 0 < (start.run p).depth
  mode_eq : (start.run t).mode = .code
  depth_eq : (start.run t).depth = 0

namespace Nesting

/-- The flag stands as long as the depth is not below zero. -/
lemma proper_step (n : Nesting) (hsound : n.proper → 0 ≤ n.depth) (c : Char) :
    (n.step c).proper ↔ n.proper ∧ 0 ≤ (n.step c).depth := by
  obtain ⟨mode, depth, proper⟩ := n
  cases mode with
  | escape mark => simpa [step] using hsound
  | literal mark =>
      simp only [step]
      split_ifs <;> simpa using hsound
  | code =>
      simp only [step]
      split_ifs
      · simpa using hsound
      · refine ⟨fun h => ⟨h, ?_⟩, fun h => h.1⟩
        have := hsound h
        simp only at this ⊢
        omega
      · simp
      · simpa using hsound

/-- **The flag tells whether the depth was ever below zero.** -/
lemma proper_run_iff (t : Text) :
    (start.run t).proper ↔ ∀ p, p <+: t → 0 ≤ (start.run p).depth := by
  induction t using List.reverseRecOn with
  | nil => simp [run, start]
  | append_singleton t c ih =>
      rw [run_concat, proper_step _ (sound_start.run t).depth, ih]
      constructor
      · rintro ⟨hbefore, hlast⟩ p hp
        rcases List.prefix_concat_iff.mp hp with rfl | hp
        · rwa [run_concat]
        · exact hbefore p hp
      · intro h
        refine ⟨fun p hp => h p (hp.trans (List.prefix_append t [c])), ?_⟩
        rw [← run_concat]
        exact h _ List.prefix_rfl

lemma isClosed_run_iff {t : Text} : (start.run t).isClosed ↔ Balanced t := by
  simp only [isClosed, isTop, Bool.and_eq_true, beq_iff_eq, proper_run_iff]
  constructor
  · rintro ⟨hdepths, hmode, hdepth⟩
    exact ⟨hdepths, hmode, hdepth⟩
  · intro h
    exact ⟨h.depth_nonneg, h.mode_eq, h.depth_eq⟩

lemma inside_opener {n : Nesting} (hmode : n.mode = .code) {c : Char} (h : isOpener c) :
    Inside 1 (n.step c) n := by
  have hmark : isMark c = false := by
    simp only [isOpener, Bool.or_eq_true, beq_iff_eq] at h
    rcases h with (rfl | rfl) | rfl <;> rfl
  constructor <;> simp [step, hmode, hmark, h]

/-- Behind an opening bracket. -/
lemma inside_bracket {c : Char} (hc : isOpener c) (t : Text) :
    Inside 1 (start.run (c :: t)) (start.run t) :=
  (inside_opener (n := start) rfl hc).run t

/-- A closing bracket counts outside of literals only. -/
lemma Sound.closes {n : Nesting} (h : n.Sound) :
    (n.step ')').mode = .code ∧ (n.step ')').depth = 0 ↔ n.mode = .code ∧ n.depth = 1 := by
  obtain ⟨mode, depth, proper⟩ := n
  cases mode with
  | escape mark => simp [Nesting.step]
  | literal mark =>
      have hne : (')' : Char) ≠ mark := by
        rintro rfl
        exact absurd (h.literal _ rfl) (by decide)
      simp [Nesting.step, hne]
  | code =>
      have hstep : Nesting.step ⟨.code, depth, proper⟩ ')'
          = ⟨.code, depth - 1, proper && decide (0 ≤ depth - 1)⟩ := rfl
      simp only [hstep, true_and]
      omega

end Nesting

/-- **In brackets, a balanced text is one whose last bracket closes the first.** -/
lemma closesFirst_iff {t : Text} : ClosesFirst ('(' :: t ++ [')']) ↔ Balanced t := by
  have hinside := fun p => Nesting.inside_bracket (c := '(') rfl p
  have hclose : (start.run ('(' :: t ++ [')'])).mode = .code ∧
      (start.run ('(' :: t ++ [')'])).depth = 0 ↔
        (start.run t).mode = .code ∧ (start.run t).depth = 0 := by
    rw [Nesting.run_concat, (Nesting.sound_start.run _).closes, (hinside t).mode_eq,
      (hinside t).depth_eq]
    exact and_congr_right fun _ => by omega
  constructor
  · intro h
    obtain ⟨hmode, hdepth⟩ := hclose.mp ⟨h.mode_eq, h.depth_eq⟩
    refine ⟨fun p hp => ?_, hmode, hdepth⟩
    have hprefix : '(' :: p <+: '(' :: t ++ [')'] :=
      ((List.prefix_cons_inj _).mpr hp).trans (List.prefix_append _ _)
    have hproper : '(' :: p ≠ '(' :: t ++ [')'] := by
      intro heq
      have hlength := hp.length_le
      have := congrArg List.length heq
      simp at this
      omega
    have hpos := h.depth_pos _ hprefix (List.cons_ne_nil _ _) hproper
    rw [(hinside p).depth_eq] at hpos
    omega
  · intro h
    obtain ⟨hmode, hdepth⟩ := hclose.mpr ⟨h.mode_eq, h.depth_eq⟩
    refine ⟨fun p hp hne hproper => ?_, hmode, hdepth⟩
    rcases List.prefix_concat_iff.mp hp with rfl | hp
    · exact absurd rfl hproper
    · obtain ⟨c, q, rfl⟩ := List.exists_cons_of_ne_nil hne
      obtain ⟨rfl, hq⟩ := List.cons_prefix_cons.mp hp
      have hnonneg := h.depth_nonneg q hq
      rw [(hinside q).depth_eq]
      omega

/-! ## Arguments -/

namespace Nesting

lemma proper_of_run {n : Nesting} {t : Text} (hsound : n.Sound) (h : (n.run t).proper) :
    n.proper := by
  induction t generalizing n with
  | nil => exact h
  | cons c t ih => exact ((proper_step n hsound.depth c).mp (ih (hsound.step c) h)).1

/-- A blank ends no literal: in code behind it, the scan was there before it. -/
lemma Sound.step_blank_of_code {n : Nesting} (hsound : n.Sound) {c : Char} (hc : isBlank c)
    (h : (n.step c).mode = .code) : n.step c = n := by
  obtain ⟨mode, depth, proper⟩ := n
  cases mode with
  | escape mark => simp [Nesting.step] at h
  | literal mark =>
      have hmark : c ≠ mark := by
        rintro rfl
        have hmark := hsound.literal _ rfl
        simp only [isMark, Bool.or_eq_true, beq_iff_eq] at hmark
        rcases hmark with rfl | rfl <;> exact absurd hc (by decide)
      simp only [Nesting.step, if_neg hmark] at h
      split_ifs at h
  | code => exact step_blank rfl hc

lemma Sound.run_blank_of_code {n : Nesting} (hsound : n.Sound) {g : Text}
    (hg : ∀ c ∈ g, isBlank c) (h : (n.run g).mode = .code) : n.run g = n := by
  induction g generalizing n with
  | nil => rfl
  | cons c g ih =>
      obtain ⟨hc, hg⟩ := List.forall_mem_cons.mp hg
      have hrest : (n.step c).run g = n.step c := ih (hsound.step c) hg h
      have hmode : (n.step c).mode = .code := hrest ▸ h
      exact hrest.trans (hsound.step_blank_of_code hc hmode)

end Nesting

/-- **The first piece of a text**: it holds no comma that separates, and either it is all or a comma
follows that does. -/
lemma cutFrom_cases (t : Text) (n : Nesting) :
    ∃ p, Uncut n p ∧ (t = p ∨ ∃ rest, t = p ++ ',' :: rest ∧ (n.run p).isTop) := by
  induction t generalizing n with
  | nil => exact ⟨[], by simp [Uncut], Or.inl rfl⟩
  | cons c t ih =>
      by_cases hcut : isCut n c
      · rw [isCut, Bool.and_eq_true, beq_iff_eq] at hcut
        obtain ⟨rfl, htop⟩ := hcut
        exact ⟨[], by simp [Uncut], Or.inr ⟨t, rfl, htop⟩⟩
      · obtain ⟨p, huncut, hp⟩ := ih (n.step c)
        refine ⟨c :: p, fun a b hab => ?_, ?_⟩
        · cases a with
          | nil =>
              obtain ⟨rfl, -⟩ := List.cons_eq_cons.mp hab
              simpa [isCut, Nesting.run] using hcut
          | cons d a =>
              obtain ⟨rfl, hp⟩ := List.cons_eq_cons.mp hab
              exact huncut a b hp
        · rcases hp with rfl | ⟨rest, rfl, htop⟩
          · exact Or.inl rfl
          · exact Or.inr ⟨rest, rfl, htop⟩

lemma IsPiece.of_uncut {p : Text} (hclosed : (start.run p).isClosed) (huncut : Uncut start p) :
    IsPiece p where
  closed := hclosed
  uncut := by
    intro k hk hcomma
    refine huncut (p.take k) (p.drop (k + 1)) ?_
    have hdrop := List.drop_eq_getElem_cons hk
    rw [List.getElem?_eq_getElem hk, Option.some.injEq] at hcomma
    rw [← hcomma, ← hdrop, List.take_append_drop]

/-- **A text is pieces with commas between them that separate.** -/
@[elab_as_elim]
lemma cut_induction {P : Text → Prop} (last : ∀ p, Uncut start p → P p)
    (more : ∀ p t, Uncut start p → (start.run p).isTop → P t → P (p ++ ',' :: t)) (t : Text) :
    P t := by
  induction hlength : t.length using Nat.strong_induction_on generalizing t with
  | _ n ih =>
      obtain ⟨p, huncut, rfl | ⟨rest, rfl, htop⟩⟩ := cutFrom_cases t start
      · exact last t huncut
      · refine more p rest huncut htop (ih rest.length ?_ rest rfl)
        rw [← hlength, List.length_append, List.length_cons]
        omega

/-- The first piece of a balanced text is balanced, and so is what follows its comma. -/
lemma isPiece_of_isClosed {p t : Text} (huncut : Uncut start p) (htop : (start.run p).isTop)
    (h : (start.run (p ++ ',' :: t)).isClosed) : IsPiece p ∧ (start.run t).isClosed := by
  -- The scan is proper in the end, so it was so at the comma, and the rest starts afresh.
  have hproper : (start.run p).proper := by
    rw [Nesting.isClosed, Bool.and_eq_true, Nesting.run_append] at h
    exact Nesting.proper_of_run (Nesting.sound_start.run p) h.1
  have hclosed : (start.run p).isClosed := by
    rw [Nesting.isClosed, hproper, htop]
    rfl
  refine ⟨.of_uncut hclosed huncut, ?_⟩
  rw [Nesting.run_append, Nesting.eq_start_of_isClosed hclosed] at h
  exact h

/-- **A balanced text is balanced pieces with commas between them.** -/
lemma closed_induction {P : Text → Prop} (last : ∀ p, IsPiece p → P p)
    (more : ∀ p t, IsPiece p → P t → P (p ++ ',' :: t)) (t : Text)
    (h : (start.run t).isClosed) : P t := by
  induction t using cut_induction with
  | last p huncut => exact last p (.of_uncut h huncut)
  | more p t huncut htop ih =>
      obtain ⟨hpiece, hrest⟩ := isPiece_of_isClosed huncut htop h
      exact more p t hpiece (ih hrest)

/-- Stripping takes no comma into account that it did not before. -/
lemma Uncut.strip {p : Text} (h : Uncut start p) : Uncut start p.strip := by
  obtain ⟨g, g', hp, hg, -⟩ := p.exists_append_strip
  intro a b hab
  have huncut := h (g ++ a) (b ++ g') (by rw [hp, hab]; simp)
  rwa [Nesting.run_append, Nesting.run_blank hg] at huncut

/-- The blanks around a text that ends outside of literals belong to none of its literals. -/
lemma Nesting.run_strip {p : Text} (h : (start.run p).mode = .code) :
    start.run p.strip = start.run p := by
  obtain ⟨g, g', hp, hg, hg'⟩ := p.exists_append_strip
  have hrun : start.run p = (start.run p.strip).run g' := by
    calc start.run p = start.run (g ++ p.strip ++ g') := congrArg start.run hp
      _ = _ := by rw [run_append, run_append, run_blank hg]
  rw [hrun] at h ⊢
  exact ((sound_start.run _).run_blank_of_code hg' h).symm

lemma IsPiece.strip {p : Text} (h : IsPiece p) : IsPiece p.strip := by
  have hmode : (start.run p).mode = .code := congrArg Nesting.mode h.run_eq
  refine .of_uncut ?_ h.isUncut.strip
  rw [Nesting.run_strip hmode]
  exact h.closed

/-- **The arguments of a balanced text are pieces**, without blanks around them. -/
lemma isPiece_of_mem_splitArguments {t : Text} (h : (start.run t).isClosed) :
    ∀ a ∈ splitArguments t, IsPiece a ∧ a.strip = a := by
  refine closed_induction (P := fun t => ∀ a ∈ splitArguments t, IsPiece a ∧ a.strip = a)
    (fun p hp => ?_) (fun p t hp ih => ?_) t h
  · by_cases hblank : p.strip = []
    · simp [splitArguments_blank (Text.isBlank_of_strip_eq_nil hblank)]
    · simp only [splitArguments_piece hp hblank, List.mem_singleton, forall_eq]
      exact ⟨hp.strip, p.strip_strip⟩
  · simp only [splitArguments_piece_comma hp, List.forall_mem_cons]
    exact ⟨⟨hp.strip, p.strip_strip⟩, ih⟩

/-- A list of pieces with commas and blanks between them is balanced. -/
lemma isClosed_run_joinWith {args : List Text} (h : ∀ a ∈ args, IsPiece a) :
    start.run (Text.joinWith ", " args) = start := by
  induction args with
  | nil => rfl
  | cons a args ih =>
      have ha := (h a List.mem_cons_self).run_eq
      cases args with
      | nil => simpa [Text.joinWith] using ha
      | cons b args =>
          have hrest := ih fun c hc => h c (List.mem_cons_of_mem a hc)
          have hcomma : start.run ", " = start := by decide
          rw [Text.joinWith_cons_cons, Nesting.run_append, ha, Nesting.run_append, hcomma, hrest]

/-- Behind the first of several arguments that are joined, cutting starts afresh. -/
lemma splitArguments_joinWith_cons {a : Text} (huncut : Uncut start a) (htop : (start.run a).isTop)
    (hstrip : a.strip = a) {args : List Text} (hargs : args ≠ []) :
    splitArguments (Text.joinWith ", " (a :: args))
      = a :: splitArguments (Text.joinWith ", " args) := by
  have hspace : ∀ c ∈ [' '], isBlank c := List.all_eq_true.mp (by decide)
  have hblank := splitArguments_blank_append hspace (Text.joinWith ", " args)
  have hcomma := splitArguments_comma huncut htop ([' '] ++ Text.joinWith ", " args)
  rw [hblank, hstrip] at hcomma
  rw [Text.joinWith_cons hargs]
  exact hcomma

/-- **Arguments that are joined are cut as before.** -/
lemma splitArguments_joinWith {args : List Text}
    (h : ∀ a ∈ args, (IsPiece a ∧ a.strip = a) ∧ a ≠ []) :
    splitArguments (Text.joinWith ", " args) = args := by
  induction args with
  | nil => decide
  | cons a args ih =>
      obtain ⟨⟨⟨hpiece, hstrip⟩, hne⟩, hrest⟩ := List.forall_mem_cons.mp h
      by_cases hargs : args = []
      · have hsplit := splitArguments_piece hpiece (by rwa [hstrip])
        simpa [hargs, Text.joinWith, hstrip] using hsplit
      · rw [splitArguments_joinWith_cons hpiece.isUncut hpiece.isTop hstrip hargs, ih hrest]

/-! ## Calls -/

namespace Call

/-- **The grammar of calls.** -/
lemma parse?_eq_some_iff {t : Text} {call : Call} : parse? t = some call ↔
    ∃ body, Written t call.callee body ∧ Balanced body ∧ call.args = splitArguments body := by
  rw [parse?]
  constructor
  · intro h
    split at h
    · cases h
    · next callee body hsplit =>
      split_ifs at h with hclosed
      cases h
      exact ⟨body, written_of_split? hsplit, Nesting.isClosed_run_iff.mp hclosed, rfl⟩
  · rintro ⟨body, hwritten, hbalanced, hargs⟩
    have hclosed := Nesting.isClosed_run_iff.mpr hbalanced
    simp [split?_of_written hwritten, hclosed, ← hargs]

lemma isPiece_of_mem_args {t : Text} {call : Call} (h : parse? t = some call) :
    ∀ a ∈ call.args, IsPiece a ∧ a.strip = a := by
  obtain ⟨body, -, hbalanced, hargs⟩ := parse?_eq_some_iff.mp h
  rw [hargs]
  exact isPiece_of_mem_splitArguments (Nesting.isClosed_run_iff.mpr hbalanced)

/-- A call from a path and from arguments. -/
def form (callee : Text) (args : List Text) : Text :=
  callee ++ '(' :: Text.joinWith ", " args ++ [')']

/-- **A call from parts of a call reads back as them.** -/
lemma parse?_form {t : Text} {call : Call} (h : parse? t = some call) {callee : Text}
    (hne : callee ≠ []) (hpath : ∀ c ∈ callee, isPathChar c) {args : List Text}
    (hargs : args <:+ call.args) (hfull : ∀ a ∈ args, a ≠ []) :
    parse? (form callee args) = some ⟨callee, args⟩ := by
  have hpiece : ∀ a ∈ args, (IsPiece a ∧ a.strip = a) ∧ a ≠ [] := fun a ha =>
    ⟨isPiece_of_mem_args h a (hargs.subset ha), hfull a ha⟩
  have hclosed : (start.run (Text.joinWith ", " args)).isClosed := by
    rw [isClosed_run_joinWith fun a ha => (hpiece a ha).1.1]
    rfl
  rw [form, parse?_call hne hpath hclosed, splitArguments_joinWith hpiece]

end Call

/-- **What the rule for dot notation does**: it turns every call around that has an argument. -/
lemma Rule.dotNotation_edit?_eq_some_iff {d : Diagnostic} {s : Snapshot} {edit : Edit} :
    dotNotation.edit? d s = some edit ↔ ∃ call receiver rest,
      Call.parse? (s.textAt d.range) = some call ∧ call.args = receiver :: rest ∧
        edit = ⟨d.range, dotForm receiver (method d.message call) rest⟩ := by
  show dotNotationEdit? d s = some edit ↔ _
  rw [dotNotationEdit?]
  cases hcall : Call.parse? (s.textAt d.range) with
  | none => simp
  | some call =>
      cases hargs : call.args with
      | nil => simp [hargs]
      | cons receiver rest => simp [hargs, method, eq_comm]

/-- **A text is read as a call if it is one whole call, and what is read can be written again.**
The parts of a call are determined by its text.  Written from its parts, the call is read as it was;
and turned around, it is a call of the method with the arguments that are left, if the first one is a
path. -/
theorem Call.parse?_grammar (t : Text) :
    ((parse? t).isSome ↔ ∃ callee body, Written t callee body ∧ Balanced body) ∧
      (∀ callee body, Written t callee body →
        (Balanced body ↔ ClosesFirst ('(' :: body ++ [')'])) ∧
          (∀ callee' body', Written t callee' body' → callee' = callee ∧ body' = body) ∧
          (Balanced body → parse? t = some ⟨callee, splitArguments body⟩)) ∧
      ∀ call, parse? t = some call → (∀ a ∈ call.args, a ≠ []) →
        parse? (form call.callee call.args) = some call ∧
          ∀ (receiver : Text) (rest : List Text), call.args = receiver :: rest →
            (∀ c ∈ receiver, isPathChar c) → ∀ (d : Diagnostic) (s : Snapshot),
              s.textAt d.range = t → ∃ edit, Rule.dotNotation.edit? d s = some edit ∧
                parse? edit.newText
                  = some ⟨receiver ++ '.' :: Rule.method d.message call, rest⟩ := by
  refine ⟨?_, fun callee body hwritten => ⟨closesFirst_iff.symm, ?_, ?_⟩,
    fun call hcall hfull => ?_⟩
  · rw [Option.isSome_iff_exists]
    constructor
    · rintro ⟨call, hcall⟩
      obtain ⟨body, hwritten, hbalanced, -⟩ := parse?_eq_some_iff.mp hcall
      exact ⟨call.callee, body, hwritten, hbalanced⟩
    · rintro ⟨callee, body, hwritten, hbalanced⟩
      exact ⟨⟨callee, splitArguments body⟩,
        parse?_eq_some_iff.mpr ⟨body, hwritten, hbalanced, rfl⟩⟩
  · intro callee' body' hwritten'
    have hsplit := split?_of_written hwritten'
    rw [split?_of_written hwritten] at hsplit
    cases hsplit
    exact ⟨rfl, rfl⟩
  · intro hbalanced
    exact parse?_eq_some_iff.mpr ⟨body, hwritten, hbalanced, rfl⟩
  · obtain ⟨body, hwritten, -, -⟩ := parse?_eq_some_iff.mp hcall
    refine ⟨parse?_form hcall hwritten.ne_nil hwritten.path List.suffix_rfl hfull, ?_⟩
    rintro receiver rest hargs hreceiver d s rfl
    refine ⟨_, Rule.dotNotation_edit?_eq_some_iff.mpr ⟨call, receiver, rest, hcall, hargs, rfl⟩, ?_⟩
    have hpath : ∀ c ∈ receiver ++ '.' :: Rule.method d.message call, isPathChar c := by
      simp only [List.forall_mem_append, List.forall_mem_cons]
      exact ⟨hreceiver, by decide, Rule.isPathChar_of_mem_method d.message hwritten.path⟩
    exact parse?_form hcall (by simp) hpath (hargs ▸ List.suffix_cons receiver rest)
      fun a ha => hfull a (hargs ▸ List.mem_cons_of_mem receiver ha)

/-- A call with blanks around its parts, and with a comma and brackets in its literals. -/
theorem Call.parse?_grammar_literals :
    let t : Text := " M.put (xs , \"a, (\",[f(')')]\n) "
    let call : Call := ⟨"M.put", ["xs", "\"a, (\"", "[f(')')]"]⟩
    let d : Diagnostic :=
      ⟨"A.mo", .ofCoords 0 0 1 2, "M0236", "use the dot notation `xs.add(...)`", .warning⟩
    parse? t = some call ∧ parse? "M.put(xs, \"a, (\", [f(')')])" = some call ∧
      ∃ edit, Rule.dotNotation.edit? d (.ofText t) = some edit ∧
        parse? edit.newText = some ⟨"xs.add", ["\"a, (\"", "[f(')')]"]⟩ := by
  intro t call d
  have hcall : parse? t = some call := by decide +kernel
  obtain ⟨hform, hturned⟩ := (parse?_grammar t).2.2 call hcall (by decide)
  have hpath : ∀ c ∈ "xs".toList, isPathChar c := List.all_eq_true.mp (by decide +kernel)
  obtain ⟨edit, hedit, hparse⟩ :=
    hturned "xs" ["\"a, (\"", "[f(')')]"] rfl hpath d (.ofText t) (by decide +kernel)
  have hmethod : "xs".toList ++ '.' :: Rule.method d.message call = "xs.add" := by decide +kernel
  rw [hmethod] at hparse
  exact ⟨hcall, hform, edit, hedit, hparse⟩

end Amend
