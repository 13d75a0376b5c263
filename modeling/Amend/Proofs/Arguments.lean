import Amend.Rule.DotNotation
import Mathlib.Algebra.Ring.Nat
import Mathlib.Data.List.DropRight
import Mathlib.Data.List.TakeWhile
import Mathlib.Tactic.Lemma
import Mathlib.Tactic.Set

/-!
# Calls and their arguments

What a call is taken apart into and put together from, as far as the rewriting of calls needs it.

**The pieces.**  Cutting loses nothing: with commas between them, the pieces are the text
(`joinWith_cutFrom`).  So the arguments hold no character more often than the text between the
brackets (`count_splitArguments_le`), and of the commas at least those between them are missing.

**The scan.**  `Nesting.Sound` holds after every text: a literal is open only to one of the two
marks, and the depth is below zero only if this has been noted.  A closed text therefore does not
end with an opening bracket.

**The call.**  `Call.Written` is a text with the parts of a call and blanks around them, and
`Call.split?_eq_some_iff` says that these are the texts which are taken apart.

**The method.**  A proposed method is a word, and carriage returns behind the message do not change
what it proposes (`Rule.proposedMethod?_dropEndReturns`).

**Turning a call around** always changes it (`Rule.dotForm_ne`).
-/

namespace Amend

/-! ## Joined texts -/

namespace Text

/-- Between two texts stands one separator. -/
lemma count_joinWith (x : Char) (sep : Text) : ∀ ts : List Text,
    (joinWith sep ts).count x = (ts.map (List.count x)).sum + (ts.length - 1) * sep.count x
  | [] => by simp [joinWith]
  | [t] => by simp [joinWith]
  | t :: u :: us => by
      have ih := count_joinWith x sep (u :: us)
      rw [joinWith_cons_cons, List.count_append, List.count_append, ih]
      simp only [List.map_cons, List.sum_cons, List.length_cons, Nat.add_sub_cancel, Nat.succ_mul]
      omega

lemma mem_joinWith (sep : Text) {c : Char} {t : Text} (hc : c ∈ t) : ∀ {ts : List Text}, t ∈ ts →
    c ∈ joinWith sep ts
  | [_], h => by
      obtain rfl := List.mem_singleton.mp h
      simpa [joinWith] using hc
  | u :: v :: us, h => by
      rw [joinWith_cons_cons]
      rcases List.mem_cons.mp h with rfl | h
      · exact List.mem_append_left _ hc
      · exact List.mem_append_right _ (List.mem_append_right _ (mem_joinWith sep hc h))

lemma dropEndWhile_eq_rdropWhile (p : Char → Bool) (t : Text) :
    dropEndWhile p t = List.rdropWhile p t := rfl

/-- What `dropEndWhile` takes away. -/
lemma exists_append_dropEndWhile (p : Char → Bool) (t : Text) :
    ∃ tail, t = dropEndWhile p t ++ tail ∧ ∀ c ∈ tail, p c := by
  refine ⟨t.rtakeWhile p, ?_, fun c hc => List.mem_rtakeWhile_imp hc⟩
  rw [dropEndWhile_eq_rdropWhile, List.rdropWhile_append_rtakeWhile]

lemma strip_sublist (t : Text) : t.strip.Sublist t := by
  obtain ⟨tail, ht, -⟩ := exists_append_dropEndWhile isBlank (t.dropWhile isBlank)
  have hend : t.strip.Sublist (t.dropWhile isBlank) := by
    rw [ht]
    exact List.sublist_append_left _ _
  exact hend.trans (List.dropWhile_sublist isBlank)

/-! ## Carriage returns at the end -/

/-- Carriage returns at the end do not help a text to begin with a lead that has none. -/
lemma isPrefixOf?_append_returns {returns : Text} (hreturns : ∀ c ∈ returns, c = '\r') :
    ∀ {lead : Text} (t : Text), '\r' ∉ lead →
      lead.isPrefixOf? (t ++ returns) = (lead.isPrefixOf? t).map (· ++ returns)
  | [], t, _ => by cases t <;> rfl
  | p :: ps, [], h => by
      cases returns with
      | nil => rfl
      | cons c cs =>
          obtain rfl := hreturns c List.mem_cons_self
          have hp : p ≠ '\r' := fun heq => h (heq ▸ List.mem_cons_self)
          simp [List.isPrefixOf?, hp]
  | p :: ps, c :: cs, h => by
      have ih := isPrefixOf?_append_returns hreturns cs fun hmem => h (List.mem_cons_of_mem p hmem)
      rw [List.cons_append, List.isPrefixOf?, List.isPrefixOf?, ih]
      split <;> rfl

lemma takeWhile_append_returns {returns : Text} (hreturns : ∀ c ∈ returns, c = '\r')
    {p : Char → Bool} (hp : p '\r' = false) (t : Text) :
    (t ++ returns).takeWhile p = t.takeWhile p ∧
      (t ++ returns).dropWhile p = t.dropWhile p ++ returns := by
  have hnone : returns.takeWhile p = [] ∧ returns.dropWhile p = returns := by
    cases returns with
    | nil => exact ⟨rfl, rfl⟩
    | cons c cs =>
        obtain rfl := hreturns c List.mem_cons_self
        simp [hp]
  induction t with
  | nil => exact hnone
  | cons c cs ih =>
      rw [List.cons_append, List.takeWhile_cons, List.takeWhile_cons, List.dropWhile_cons,
        List.dropWhile_cons, ih.1, ih.2]
      split <;> simp

end Text

/-! ## Pieces and arguments -/

lemma cutFrom_ne_nil (n : Nesting) (t : Text) : cutFrom n t ≠ [] := by
  cases t with
  | nil => simp [cutFrom]
  | cons c cs =>
      rw [cutFrom]
      split
      · simp
      · split <;> simp

/-- **Cutting loses nothing.** -/
lemma joinWith_cutFrom : ∀ (t : Text) (n : Nesting), Text.joinWith [','] (cutFrom n t) = t
  | [], _ => rfl
  | c :: cs, n => by
      have ih := joinWith_cutFrom cs (n.step c)
      cases hpieces : cutFrom (n.step c) cs with
      | nil => exact absurd hpieces (cutFrom_ne_nil _ _)
      | cons piece pieces =>
          rw [hpieces] at ih
          rw [cutFrom, hpieces]
          split
          · next hcut =>
            have hcomma : c = ',' := by
              rw [isCut, Bool.and_eq_true, beq_iff_eq] at hcut
              exact hcut.1
            rw [hcomma, ← ih]
            simp [Text.joinWith]
          · rw [← ih]
            cases pieces <;> simp [Text.joinWith]

/-- The arguments are the stripped pieces, without the last one if it is blank. -/
lemma splitArguments_cases (t : Text) :
    splitArguments t = (cutFrom .start t).map Text.strip ∨
      splitArguments t = ((cutFrom .start t).map Text.strip).dropLast := by
  rw [splitArguments]
  split
  · exact Or.inr rfl
  · exact Or.inl rfl

lemma sum_count_strip_le (x : Char) : ∀ ts : List Text,
    ((ts.map Text.strip).map (List.count x)).sum ≤ (ts.map (List.count x)).sum
  | [] => Nat.le_refl _
  | t :: ts => by
      have ih := sum_count_strip_le x ts
      have ht := (Text.strip_sublist t).count_le x
      simp only [List.map_cons, List.sum_cons]
      omega

lemma sum_map_dropLast_le {α : Type} (f : α → Nat) : ∀ l : List α,
    (l.dropLast.map f).sum ≤ (l.map f).sum
  | [] => Nat.le_refl _
  | [_] => by simp
  | a :: b :: l => by
      have ih := sum_map_dropLast_le f (b :: l)
      simp only [List.dropLast_cons_cons, List.map_cons, List.sum_cons] at ih ⊢
      omega

/-- **What the arguments hold** is held by the text that they were cut from, besides the commas
between them. -/
lemma count_splitArguments_le (x : Char) (t : Text) :
    ((splitArguments t).map (List.count x)).sum
      + ((splitArguments t).length - 1) * List.count x [','] ≤ t.count x := by
  have htext : t.count x = ((cutFrom .start t).map (List.count x)).sum
      + ((cutFrom .start t).length - 1) * List.count x [','] := by
    have hcount := Text.count_joinWith x [','] (cutFrom .start t)
    rwa [joinWith_cutFrom] at hcount
  have hstrip := sum_count_strip_le x (cutFrom .start t)
  rw [htext]
  rcases splitArguments_cases t with h | h
  · rw [h, List.length_map]
    omega
  · have hlast := sum_map_dropLast_le (List.count x) ((cutFrom .start t).map Text.strip)
    have hlength := Nat.mul_le_mul_right (List.count x [','])
      (Nat.sub_le ((cutFrom .start t).length - 1) 1)
    rw [h, List.length_dropLast, List.length_map]
    omega

/-! ## What the scan keeps -/

namespace Nesting

/-- **What holds after every text.**  Only one of the two marks closes an open literal, and a depth
below zero has been noted. -/
structure Sound (n : Nesting) : Prop where
  literal : ∀ mark, n.mode = .literal mark → isMark mark
  escape : ∀ mark, n.mode = .escape mark → isMark mark
  depth : n.proper → 0 ≤ n.depth

lemma sound_start : Sound start := ⟨nofun, nofun, fun _ => Int.le_refl _⟩

lemma Sound.step {n : Nesting} (h : n.Sound) (c : Char) : (n.step c).Sound := by
  obtain ⟨mode, depth, proper⟩ := n
  cases mode with
  | escape mark =>
      exact ⟨fun _ heq => by cases heq; exact h.escape mark rfl, nofun, h.depth⟩
  | literal mark =>
      have hmark := h.literal mark rfl
      simp only [Nesting.step]
      split
      · exact ⟨nofun, fun _ heq => by cases heq; exact hmark, h.depth⟩
      · split
        · exact ⟨nofun, nofun, h.depth⟩
        · exact h
  | code =>
      simp only [Nesting.step]
      split
      · next hc => exact ⟨fun _ heq => by cases heq; exact hc, nofun, h.depth⟩
      · split
        · exact ⟨nofun, nofun, fun hproper => Int.add_nonneg (h.depth hproper) (by decide)⟩
        · split
          · refine ⟨nofun, nofun, fun hproper => ?_⟩
            exact of_decide_eq_true (Bool.and_eq_true_iff.mp hproper).2
          · exact h

lemma Sound.run : ∀ (t : Text) {n : Nesting}, n.Sound → (n.run t).Sound
  | [], _, h => h
  | c :: cs, _, h => (h.step c).run cs

/-- A bracket that has just been opened is not closed. -/
lemma Sound.not_isClosed_step_opener {n : Nesting} (h : n.Sound) : ¬ (n.step '(').isClosed := by
  obtain ⟨mode, depth, proper⟩ := n
  intro hclosed
  cases mode with
  | escape mark => simp [Nesting.step, isClosed, isTop] at hclosed
  | literal mark =>
      have hmark := h.literal mark rfl
      have hne : ('(' : Char) ≠ mark := by rintro rfl; exact absurd hmark (by decide)
      simp [Nesting.step, hne, isClosed, isTop] at hclosed
  | code =>
      have hstep : Nesting.step ⟨.code, depth, proper⟩ '(' = ⟨.code, depth + 1, proper⟩ := rfl
      rw [hstep, isClosed, isTop, Bool.and_eq_true, Bool.and_eq_true] at hclosed
      have hdepth : 0 ≤ depth := h.depth hclosed.1
      have hzero : depth + 1 = 0 := beq_iff_eq.mp hclosed.2.2
      omega

lemma run_concat (n : Nesting) (t : Text) (c : Char) : n.run (t ++ [c]) = (n.run t).step c := by
  rw [run, List.foldl_append]
  rfl

end Nesting

/-! ## Reading calls -/

namespace Call

/-- The code points of the blank characters. -/
def blankPoints : List Nat :=
  [9, 10, 11, 12, 13, 28, 29, 30, 31, 32, 0x85, 0xA0, 0x1680, 0x2000, 0x2001, 0x2002, 0x2003,
   0x2004, 0x2005, 0x2006, 0x2007, 0x2008, 0x2009, 0x200A, 0x2028, 0x2029, 0x202F, 0x205F, 0x3000]

/-- A dotted path has no blanks. -/
lemma isBlank_eq_false_of_isPathChar {c : Char} (h : isPathChar c) : isBlank c = false := by
  refine Bool.eq_false_iff.mpr fun hblank => ?_
  have hpoint : c.toNat ∈ blankPoints := by
    simp only [isBlank, Bool.or_eq_true, Bool.and_eq_true, decide_eq_true_eq, beq_iff_eq] at hblank
    simp only [blankPoints, List.mem_cons, List.not_mem_nil, or_false]
    omega
  have hnone : ∀ n ∈ blankPoints, isPathChar (Char.ofNat n) = false := by decide +kernel
  have hc := hnone _ hpoint
  rw [Char.ofNat_toNat, h] at hc
  cases hc

/-- **A call as it is written**: the callee and a text between brackets, with blanks around them. -/
structure Written (t callee body : Text) : Prop where
  ne_nil : callee ≠ []
  path : ∀ c ∈ callee, isPathChar c
  layout : ∃ lead gap tail, t = lead ++ callee ++ gap ++ '(' :: body ++ ')' :: tail ∧
    (∀ c ∈ lead, isBlank c) ∧ (∀ c ∈ gap, isBlank c) ∧ ∀ c ∈ tail, isBlank c

lemma split?_of_written {t callee body : Text} (h : Written t callee body) :
    split? t = some (callee, body) := by
  obtain ⟨hne, hpath, lead, gap, tail, rfl, hlead, hgap, htail⟩ := h
  obtain ⟨c, cs, rfl⟩ := List.exists_cons_of_ne_nil hne
  have hfirst := isBlank_eq_false_of_isPathChar (hpath c List.mem_cons_self)
  set rest := gap ++ '(' :: (body ++ ')' :: tail) with hrest
  have hfront : (lead ++ c :: cs ++ gap ++ '(' :: body ++ ')' :: tail).dropWhile isBlank
      = c :: cs ++ rest := by
    simp [List.dropWhile_append_of_pos hlead, hfirst, hrest]
  -- Behind the callee stands a blank or the bracket, and neither is part of a path.
  have hnone : rest.takeWhile isPathChar = [] := by
    cases gap with
    | nil => rfl
    | cons d ds =>
        have hd : isPathChar d = false := Bool.eq_false_iff.mpr fun hpart => by
          simpa [isBlank_eq_false_of_isPathChar hpart] using hgap d List.mem_cons_self
        simp [hrest, hd]
  have hself : rest.dropWhile isPathChar = rest := by
    have hsplit := List.takeWhile_append_dropWhile (p := isPathChar) (l := rest)
    rwa [hnone, List.nil_append] at hsplit
  have hcallee : (c :: cs ++ rest).takeWhile isPathChar = c :: cs := by
    rw [List.takeWhile_append_of_pos hpath, hnone, List.append_nil]
  have hbracket : ((c :: cs ++ rest).dropWhile isPathChar).dropWhile isBlank
      = '(' :: (body ++ ')' :: tail) := by
    rw [List.dropWhile_append_of_pos hpath, hself, hrest, List.dropWhile_append_of_pos hgap,
      List.dropWhile_cons_of_neg (by decide)]
  have hend : (Text.dropEndWhile isBlank (body ++ ')' :: tail)).reverse = ')' :: body.reverse := by
    have htail' : ∀ d ∈ tail.reverse, isBlank d := fun d hd => htail d (List.mem_reverse.mp hd)
    have hclose : ¬ isBlank ')' := by decide
    rw [Text.dropEndWhile, List.reverse_reverse]
    simp [List.dropWhile_append_of_pos htail', List.dropWhile_cons_of_neg hclose]
  simp only [split?, hfront, hcallee, hbracket, hend, List.reverse_reverse]

lemma written_of_split? {t callee body : Text} (h : split? t = some (callee, body)) :
    Written t callee body := by
  simp only [split?] at h
  split at h
  · next c cs rest hcallee hbracket =>
    split at h
    · next back hback =>
      obtain ⟨rfl, rfl⟩ := Prod.mk.inj (Option.some.inj h)
      set front := t.dropWhile isBlank with hfront
      obtain ⟨tail, hrest, htail⟩ := Text.exists_append_dropEndWhile isBlank rest
      rw [← List.reverse_reverse (Text.dropEndWhile isBlank rest), hback] at hrest
      have ht : t.takeWhile isBlank ++ front = t := List.takeWhile_append_dropWhile
      have hpath : c :: cs ++ front.dropWhile isPathChar = front := by
        rw [← hcallee]
        exact List.takeWhile_append_dropWhile
      have hgap : (front.dropWhile isPathChar).takeWhile isBlank ++ '(' :: rest
          = front.dropWhile isPathChar := by
        rw [← hbracket]
        exact List.takeWhile_append_dropWhile
      refine ⟨List.cons_ne_nil c cs, hcallee ▸ List.all_eq_true.mp List.all_takeWhile,
        t.takeWhile isBlank, (front.dropWhile isPathChar).takeWhile isBlank, tail, ?_,
        List.all_eq_true.mp List.all_takeWhile, List.all_eq_true.mp List.all_takeWhile, htail⟩
      calc t = t.takeWhile isBlank ++ (c :: cs ++ (_ ++ '(' :: rest)) := by rw [hgap, hpath, ht]
        _ = _ := by simp [hrest]
    · cases h
  · cases h

/-- **A text is taken apart in one way**, if it can be read as a call at all. -/
lemma split?_eq_some_iff {t callee body : Text} :
    split? t = some (callee, body) ↔ Written t callee body :=
  ⟨written_of_split?, split?_of_written⟩

/-- A call that is written without blanks. -/
lemma parse?_call {callee body : Text} (hne : callee ≠ []) (hpath : ∀ c ∈ callee, isPathChar c)
    (hclosed : (Nesting.start.run body).isClosed) :
    parse? (callee ++ '(' :: body ++ [')']) = some ⟨callee, splitArguments body⟩ := by
  have hwritten : Written (callee ++ '(' :: body ++ [')']) callee body :=
    ⟨hne, hpath, [], [], [], by simp⟩
  rw [parse?, split?_of_written hwritten]
  simp [hclosed]

/-- What a call is read from. -/
lemma exists_of_parse? {t : Text} {call : Call} (h : parse? t = some call) :
    (∀ c ∈ call.callee, isPathChar c) ∧
      ∃ front body tail, t = front ++ '(' :: body ++ ')' :: tail ∧ (∀ c ∈ tail, isBlank c) ∧
        (Nesting.start.run body).isClosed ∧ call.args = splitArguments body := by
  rw [parse?] at h
  split at h
  · cases h
  · next callee body hsplit =>
    split at h
    · next hclosed =>
      obtain ⟨-, hpath, lead, gap, tail, ht, -, -, htail⟩ := written_of_split? hsplit
      cases h
      exact ⟨hpath, lead ++ callee ++ gap, body, tail, ht, htail, hclosed, rfl⟩
    · cases h

lemma mem_callee_of_mem_functionName {call : Call} {c : Char} (h : c ∈ call.functionName) :
    c ∈ call.callee := by
  rw [functionName] at h
  cases hlast : (call.callee.splitOn '.').getLast? with
  | none =>
      rw [hlast] at h
      exact absurd h List.not_mem_nil
  | some segment =>
      rw [hlast] at h
      have hmem := Text.mem_joinWith ['.'] h (List.mem_of_getLast? hlast)
      rwa [Text.joinWith, List.intercalate_splitOn] at hmem

end Call

/-! ## Proposals -/

namespace Rule

section

variable {returns : Text} (hreturns : ∀ c ∈ returns, c = '\r')

include hreturns

lemma methodHere?_append_returns (t : Text) : methodHere? (t ++ returns) = methodHere? t := by
  cases t with
  | nil =>
      cases returns with
      | nil => rfl
      | cons c cs =>
          obtain rfl := hreturns c List.mem_cons_self
          rfl
  | cons c cs =>
      by_cases hc : c = '.'
      · obtain ⟨htake, hdrop⟩ :=
          Text.takeWhile_append_returns hreturns (p := isWord) (by decide) cs
        have hlead := Text.isPrefixOf?_append_returns hreturns (cs.dropWhile isWord)
          (show '\r' ∉ proposalTail by decide)
        simp only [hc, List.cons_append, methodHere?, htake, hdrop,
          ← List.isSome_isPrefixOf?_eq_isPrefixOf, hlead, Option.isSome_map]
      · simp [methodHere?, hc]

lemma lastMethod?_append_returns : ∀ t : Text, lastMethod? (t ++ returns) = lastMethod? t
  | [] => by
      induction returns with
      | nil => rfl
      | cons c cs ih =>
          obtain rfl := hreturns c List.mem_cons_self
          have hcs : lastMethod? cs = none := ih fun d hd => hreturns d (List.mem_cons_of_mem _ hd)
          rw [List.nil_append, lastMethod?.eq_2, hcs]
          rfl
  | c :: cs => by
      have hhere := methodHere?_append_returns hreturns (c :: cs)
      rw [List.cons_append] at hhere
      rw [List.cons_append, lastMethod?, lastMethod?, hhere, lastMethod?_append_returns cs]

/-- What follows the lead of a proposal. -/
lemma lastMethod?_line_append_returns (t : Text) :
    lastMethod? (((t ++ returns).takeWhile (· ≠ '\n')).drop 1)
      = lastMethod? ((t.takeWhile (· ≠ '\n')).drop 1) := by
  have hall : ∀ c ∈ returns, decide (c ≠ '\n') = true := by
    intro c hc
    rw [hreturns c hc]
    decide
  rw [List.takeWhile_append]
  split
  · next hline =>
    have hreturns' : returns.takeWhile (· ≠ '\n') = returns :=
      List.takeWhile_eq_self_iff.mpr hall
    rw [(List.takeWhile_prefix _).eq_of_length hline, hreturns', List.drop_append,
      lastMethod?_append_returns]
    intro c hc
    exact hreturns c (List.mem_of_mem_drop hc)
  · rfl

lemma proposedMethod?_append_returns : ∀ t : Text,
    proposedMethod? (t ++ returns) = proposedMethod? t
  | [] => by
      induction returns with
      | nil => rfl
      | cons c cs ih =>
          have hcs := ih fun d hd => hreturns d (List.mem_cons_of_mem c hd)
          have hlead := Text.isPrefixOf?_append_returns hreturns []
            (show '\r' ∉ proposalLead by decide)
          have hnone : proposalLead.isPrefixOf? [] = none := rfl
          rw [hnone, Option.map_none, List.nil_append] at hlead
          rw [List.nil_append] at hcs
          rw [List.nil_append, proposedMethod?.eq_2, hcs, hlead]
          rfl
  | c :: cs => by
      have hlead := Text.isPrefixOf?_append_returns hreturns (c :: cs)
        (show '\r' ∉ proposalLead by decide)
      rw [List.cons_append] at hlead
      rw [List.cons_append, proposedMethod?, proposedMethod?, hlead,
        proposedMethod?_append_returns cs]
      cases proposalLead.isPrefixOf? (c :: cs) with
      | none => rfl
      | some rest =>
          rw [Option.map_some, Option.bind_some, Option.bind_some,
            lastMethod?_line_append_returns hreturns]

end

/-- **A proposal does not depend on the end of its line.** -/
lemma proposedMethod?_dropEndReturns (message : Text) :
    proposedMethod? message.dropEndReturns = proposedMethod? message := by
  obtain ⟨returns, hmessage, hreturns⟩ :=
    Text.exists_append_dropEndWhile (· == '\r') message
  have key := proposedMethod?_append_returns (fun c hc => beq_iff_eq.mp (hreturns c hc))
    message.dropEndReturns
  rw [Text.dropEndReturns, ← hmessage] at key
  exact key.symm

end Rule

/-! ## Turning calls around -/

namespace Rule

lemma isWord_of_methodHere? {t method : Text} (h : methodHere? t = some method) :
    ∀ c ∈ method, isWord c := by
  unfold methodHere? at h
  split at h
  · split at h
    · cases h
    · next hword =>
      split at h
      · cases h
        rw [← hword]
        exact List.all_eq_true.mp List.all_takeWhile
      · cases h
  · cases h

lemma isWord_of_lastMethod? {method : Text} : ∀ {t : Text}, lastMethod? t = some method →
    ∀ c ∈ method, isWord c
  | c :: cs, h => by
      rw [lastMethod?, Option.orElse_eq_orElse, Option.orElse_eq_or, Option.or_eq_some_iff] at h
      rcases h with h | ⟨-, h⟩
      · exact isWord_of_lastMethod? h
      · exact isWord_of_methodHere? h

/-- A proposed method is a word. -/
lemma isWord_of_proposedMethod? {method : Text} : ∀ {message : Text},
    proposedMethod? message = some method → ∀ c ∈ method, isWord c
  | c :: cs, h => by
      rw [proposedMethod?, Option.orElse_eq_orElse, Option.orElse_eq_or,
        Option.or_eq_some_iff] at h
      rcases h with h | ⟨-, h⟩
      · obtain ⟨rest, -, hmethod⟩ := Option.bind_eq_some_iff.mp h
        exact isWord_of_lastMethod? hmethod
      · exact isWord_of_proposedMethod? h

/-- The method of a call in dot notation: the one that the message proposes, or else the function
that is called. -/
def method (message : Text) (call : Call) : Text :=
  (proposedMethod? message).getD call.functionName

lemma isPathChar_of_mem_method (message : Text) {call : Call}
    (hcallee : ∀ c ∈ call.callee, Call.isPathChar c) :
    ∀ c ∈ method message call, Call.isPathChar c := by
  intro c hc
  rw [method] at hc
  cases hproposed : proposedMethod? message with
  | none =>
      rw [hproposed] at hc
      exact hcallee c (Call.mem_callee_of_mem_functionName hc)
  | some word =>
      rw [hproposed] at hc
      rw [Call.isPathChar, isWord_of_proposedMethod? hproposed c hc, Bool.true_or]

/-- A character that the method does not hold stands in the new call as often as in its arguments
and the separators between all but the first. -/
lemma count_dotForm {x : Char} {method : Text} (hmethod : x ∉ method)
    (hx : x ≠ '.' ∧ x ≠ '(' ∧ x ≠ ')') (receiver : Text) (rest : List Text) :
    (dotForm receiver method rest).count x
      = receiver.count x + (rest.map (List.count x)).sum
        + (rest.length - 1) * List.count x (", " : Text) := by
  have hmethod' := List.count_eq_zero_of_not_mem hmethod
  obtain ⟨hdot, hopen, hclose⟩ := hx
  simp only [dotForm, List.count_append, List.count_cons, List.count_nil, hmethod',
    Text.count_joinWith, beq_iff_eq, hdot.symm, hopen.symm, hclose.symm, if_false]
  omega

/-- A call without further arguments ends with an empty pair of brackets when it is turned around,
and did not before. -/
lemma dotForm_nil_ne {front body tail receiver method : Text} (htail : ∀ c ∈ tail, isBlank c)
    (hclosed : (Nesting.start.run body).isClosed) (hargs : splitArguments body = [receiver]) :
    dotForm receiver method [] ≠ front ++ '(' :: body ++ ')' :: tail := by
  intro heq
  set callee := receiver ++ '.' :: method with hcallee
  have hnew : dotForm receiver method [] = callee ++ ['('] ++ [')'] := by
    simp [dotForm, Text.joinWith, hcallee]
  rw [hnew] at heq
  have hnone : tail = [] := by
    refine (List.eq_nil_or_concat tail).resolve_right ?_
    rintro ⟨init, last, rfl⟩
    have hassoc : front ++ '(' :: body ++ ')' :: init.concat last
        = (front ++ '(' :: body ++ ')' :: init) ++ [last] := by simp
    have hlast : [')'] = [last] := List.append_inj_right' (heq.trans hassoc) rfl
    have hblank := htail last (by simp)
    rw [← List.singleton_inj.mp hlast] at hblank
    exact absurd hblank (by decide)
  obtain ⟨init, last, rfl⟩ : ∃ (init : Text) (last : Char), body = init.concat last := by
    refine (List.eq_nil_or_concat body).resolve_left ?_
    rintro rfl
    have hnil : splitArguments [] = [] := by decide
    rw [hnil] at hargs
    cases hargs
  have hassoc : front ++ '(' :: init.concat last ++ ')' :: tail
      = (front ++ '(' :: init ++ [last]) ++ [')'] := by simp [hnone]
  have hlast : '(' = last := by
    have hinit := List.append_inj_left' (heq.trans hassoc) rfl
    exact List.singleton_inj.mp (List.append_inj_right' hinit rfl)
  rw [← hlast, List.concat_eq_append, Nesting.run_concat] at hclosed
  exact (Nesting.sound_start.run init).not_isClosed_step_opener hclosed

/-- A call with further arguments loses the comma behind the first one. -/
lemma dotForm_cons_ne {front body tail receiver next method : Text} {rest : List Text}
    (hcomma : ',' ∉ method) (hargs : splitArguments body = receiver :: next :: rest) :
    dotForm receiver method (next :: rest) ≠ front ++ '(' :: body ++ ')' :: tail := by
  intro heq
  have hnew := count_dotForm hcomma (by decide) receiver (next :: rest)
  have hold := count_splitArguments_le ',' body
  have hbody : body.count ',' ≤ (front ++ '(' :: body ++ ')' :: tail).count ',' := by
    simp only [List.count_append, List.count_cons]
    omega
  rw [heq] at hnew
  rw [hargs] at hold
  simp only [List.map_cons, List.sum_cons, List.length_cons] at hnew hold
  have hone : List.count ',' [','] = 1 := rfl
  have hone' : List.count ',' (", " : Text) = 1 := by decide
  rw [hone] at hold
  rw [hone'] at hnew
  omega

/-- **A call that is turned around changes.** -/
lemma dotForm_ne {t receiver : Text} {rest : List Text} {call : Call} (message : Text)
    (hcall : Call.parse? t = some call) (hargs : call.args = receiver :: rest) :
    dotForm receiver (method message call) rest ≠ t := by
  obtain ⟨hpath, front, body, tail, rfl, htail, hclosed, hbody⟩ := Call.exists_of_parse? hcall
  rw [hbody] at hargs
  cases rest with
  | nil => exact dotForm_nil_ne htail hclosed hargs
  | cons next rest =>
      have hcomma : ',' ∉ method message call := fun h =>
        absurd (isPathChar_of_mem_method message hpath _ h) (by decide)
      exact dotForm_cons_ne hcomma hargs

end Rule

end Amend
