import Amend.Text.Basic
import Mathlib.Data.List.Infix
import Mathlib.Tactic.Lemma

/-!
# Occurrences of a text in another one

`needle <:+: t` says that a text occurs in another one, and `Text.replaceAll` replaces it there.

**Where it occurs.**  An occurrence lies on one side of every character that the text does not hold
(`occurrence_cases`), so an occurrence in a text of several parts is looked for in each part.  It is
the only one if there is none before its end and none behind its beginning (`occurrence_unique`).

**What is replaced.**  Without an occurrence, nothing (`replaceAll_eq_self`); otherwise the only
occurrence (`replaceAll_of_unique`).

**Cuts.**  A text is cut at the first or the last of some character in one way only.
-/

namespace Amend.Text

/-! ## Occurrences -/

variable {needle a b x y : Text}

/-- **An occurrence does not cross a character that it does not hold.** -/
lemma occurrence_cases {c : Char} (hc : c ∉ needle) (h : x ++ needle ++ y = a ++ c :: b) :
    (∃ z, a = x ++ needle ++ z ∧ y = z ++ c :: b) ∨
      ∃ z, x = a ++ c :: z ∧ b = z ++ needle ++ y := by
  rcases List.append_eq_append_iff.mp h with ⟨z, ha, hy⟩ | ⟨z, hx, hb⟩
  · exact Or.inl ⟨z, ha, hy⟩
  · cases z with
    | nil =>
        rw [List.append_nil] at hx
        exact Or.inl ⟨[], by rw [hx, List.append_nil], hb.symm⟩
    | cons c' z =>
        obtain ⟨rfl, rfl⟩ := List.cons_eq_cons.mp (List.cons_append ▸ hb)
        rcases List.append_eq_append_iff.mp hx with ⟨w, -, hneedle⟩ | ⟨w, hx', hz⟩
        · exact absurd (hneedle ▸ List.mem_append_right w List.mem_cons_self) hc
        · cases w with
          | nil =>
              rw [List.nil_append] at hz
              exact absurd (hz ▸ List.mem_cons_self) hc
          | cons c' w =>
              obtain ⟨rfl, rfl⟩ := List.cons_eq_cons.mp (List.cons_append ▸ hz)
              exact Or.inr ⟨w, hx', rfl⟩

/-- An end of a text lies behind every character that it does not hold. -/
lemma end_of_append_cons {c : Char} (hc : c ∉ y) (h : x ++ y = a ++ c :: b) :
    ∃ z, x = a ++ c :: z ∧ b = z ++ y := by
  rcases occurrence_cases hc ((List.append_nil _).trans h) with ⟨z, -, hz⟩ | ⟨z, hx, hb⟩
  · cases (List.append_eq_nil_iff.mp hz.symm).2
  · exact ⟨z, hx, by rw [hb, List.append_nil]⟩

/-- And a beginning lies before it. -/
lemma beginning_of_append_cons {c : Char} (hc : c ∉ x) (h : x ++ y = a ++ c :: b) :
    ∃ z, a = x ++ z ∧ y = z ++ c :: b := by
  rcases occurrence_cases (x := []) hc h with ⟨z, ha, hy⟩ | ⟨z, hz, -⟩
  · exact ⟨z, ha, hy⟩
  · cases (List.append_eq_nil_iff.mp hz.symm).2

lemma not_infix_append_cons {c : Char} (hc : c ∉ needle) (ha : ¬ needle <:+: a)
    (hb : ¬ needle <:+: b) : ¬ needle <:+: a ++ c :: b := by
  rintro ⟨x, y, h⟩
  rcases occurrence_cases hc h with ⟨z, rfl, -⟩ | ⟨z, -, rfl⟩
  · exact ha ⟨x, z, rfl⟩
  · exact hb ⟨z, y, rfl⟩

section

variable {c : Char} {n : Text}

/-- A text does not begin where its first character does not stand. -/
lemma infix_of_first_not_mem (hc : c ∉ a) (h : (c :: n) <:+: a ++ b) : (c :: n) <:+: b := by
  obtain ⟨x, y, h⟩ := h
  have hcut : x ++ c :: (n ++ y) = a ++ b := by simpa using h
  rcases List.append_eq_append_iff.mp hcut with ⟨z, ha, hz⟩ | ⟨z, -, hb⟩
  · cases z with
    | nil => exact ⟨[], y, by simpa using hz⟩
    | cons d z =>
        obtain ⟨rfl, -⟩ := List.cons_eq_cons.mp hz
        exact absurd (ha ▸ List.mem_append_right x List.mem_cons_self) hc
  · exact ⟨z, y, by simp [hb]⟩

/-- A text that does not hold its first character again does not cross that character. -/
lemma infix_append_cons_first (hc : c ∉ n) (h : (c :: n) <:+: a ++ c :: b) :
    (c :: n) <:+: a ∨ (c :: n) <:+: c :: b := by
  obtain ⟨x, y, h⟩ := h
  have hshift : (x ++ [c]) ++ n ++ y = a ++ c :: b := by simpa using h
  rcases occurrence_cases hc hshift with ⟨z, rfl, -⟩ | ⟨z, hx, hb⟩
  · exact Or.inl ⟨x, z, by simp⟩
  · refine Or.inr ?_
    have hcut : x ++ [c] = a ++ [c] ++ z := by simpa using hx
    rcases List.eq_nil_or_concat' z with rfl | ⟨z, d, rfl⟩
    · exact ⟨[], y, by simp [hb]⟩
    · rw [← List.append_assoc] at hcut
      obtain ⟨-, hd⟩ := List.append_inj' hcut rfl
      cases hd
      exact ⟨c :: z, y, by simp [hb]⟩

end

/-- An occurrence is the only one, if there is none that ends before its end and none that begins
behind its beginning. -/
lemma occurrence_unique (hbefore : ¬ needle <:+: a ++ needle.dropLast)
    (hbehind : ¬ needle <:+: needle.tail ++ b) (h : x ++ needle ++ y = a ++ needle ++ b) :
    x = a ∧ y = b := by
  have hlength := congrArg List.length h
  simp only [List.length_append] at hlength
  rcases Nat.lt_trichotomy x.length a.length with hlt | heq | hlt
  · refine absurd ?_ hbefore
    have hfirst : x ++ needle <+: a ++ needle ++ b := ⟨y, h⟩
    have hother : a ++ needle.dropLast <+: a ++ needle ++ b :=
      ((List.prefix_append_right_inj a).mpr (List.dropLast_prefix needle)).trans
        (List.prefix_append _ _)
    have hle : (x ++ needle).length ≤ (a ++ needle.dropLast).length := by
      simp only [List.length_append, List.length_dropLast]
      omega
    exact (List.suffix_append x needle).isInfix.trans
      (List.prefix_of_prefix_length_le hfirst hother hle).isInfix
  · rw [List.append_assoc, List.append_assoc] at h
    obtain ⟨hx, hrest⟩ := List.append_inj h heq
    exact ⟨hx, List.append_cancel_left hrest⟩
  · refine absurd ?_ hbehind
    have hlast : needle ++ y <:+ a ++ needle ++ b := ⟨x, by rw [← List.append_assoc, h]⟩
    have hother : needle.tail ++ b <:+ a ++ needle ++ b := by
      refine ⟨a ++ needle.take 1, ?_⟩
      rw [List.append_assoc, ← List.append_assoc (needle.take 1), ← List.drop_one,
        List.take_append_drop, List.append_assoc]
    have hle : (needle ++ y).length ≤ (needle.tail ++ b).length := by
      simp only [List.length_append, List.length_tail]
      omega
    exact (List.prefix_append needle y).isInfix.trans
      (List.suffix_of_suffix_length_le hlast hother hle).isInfix

/-! ## Replacing -/

/-- The characters of an occurrence are passed over. -/
lemma replaceFrom_append (needle by' : Text) : ∀ passed t : Text,
    replaceFrom needle by' passed.length (passed ++ t) = replaceFrom needle by' 0 t
  | [], _ => rfl
  | c :: passed, t => by
      rw [List.length_cons, List.cons_append, replaceFrom]
      exact replaceFrom_append needle by' passed t

lemma replaceAll_eq_self (by' : Text) : ∀ {t : Text}, ¬ needle <:+: t →
    replaceAll needle by' t = t
  | [], _ => rfl
  | c :: cs, h => by
      have ih := replaceAll_eq_self by' fun hcs => h (hcs.trans (List.suffix_cons c cs).isInfix)
      have hhere : needle.isPrefixOf (c :: cs) = false := by
        rw [Bool.eq_false_iff, ne_eq, List.isPrefixOf_iff_prefix]
        exact fun hprefix => h hprefix.isInfix
      rw [replaceAll] at ih ⊢
      rw [replaceFrom, hhere, ih]
      rfl

/-- **The only occurrence of a text is replaced.** -/
lemma replaceAll_of_unique (by' : Text) (hne : needle ≠ []) : ∀ {before behind : Text},
    (∀ x y, x ++ needle ++ y = before ++ needle ++ behind → x = before) →
      replaceAll needle by' (before ++ needle ++ behind) = before ++ by' ++ behind
  | [], behind, h => by
      have hnone : ¬ needle <:+: behind := by
        rintro ⟨x, y, rfl⟩
        have hx := h (needle ++ x) y (by simp)
        exact hne (List.append_eq_nil_iff.mp hx).1
      obtain ⟨c, cs, rfl⟩ := List.exists_cons_of_ne_nil hne
      have hhere : (c :: cs).isPrefixOf (c :: (cs ++ behind)) = true :=
        List.isPrefixOf_iff_prefix.mpr ⟨behind, rfl⟩
      rw [List.nil_append, List.nil_append, List.cons_append, replaceAll, replaceFrom, hhere,
        if_pos rfl, List.length_cons, Nat.add_sub_cancel, replaceFrom_append]
      exact congrArg (by' ++ ·) (replaceAll_eq_self by' hnone)
  | c :: cs, behind, h => by
      have ih : replaceAll needle by' (cs ++ needle ++ behind) = cs ++ by' ++ behind :=
        replaceAll_of_unique by' hne fun x y hxy =>
          (List.cons_inj_right c).mp (h (c :: x) y (by simpa using hxy))
      have hhere : needle.isPrefixOf (c :: (cs ++ needle ++ behind)) = false := by
        rw [Bool.eq_false_iff, ne_eq, List.isPrefixOf_iff_prefix]
        rintro ⟨y, hy⟩
        cases h [] y (by simpa using hy)
      rw [replaceAll] at ih ⊢
      rw [List.cons_append, List.cons_append, replaceFrom, hhere, ih]
      rfl

/-! ## Cuts and pieces -/

/-- Two cuts of a text at some character are the same, or one comes before the other. -/
lemma cut_cases {c : Char} {a b x y : Text} (h : a ++ c :: b = x ++ c :: y) :
    (x = a ∧ y = b) ∨ (∃ z, x = a ++ c :: z ∧ b = z ++ c :: y) ∨ ∃ z, a = x ++ c :: z := by
  rcases List.append_eq_append_iff.mp h with ⟨z, hx, hb⟩ | ⟨z, ha, hy⟩
  · cases z with
    | nil => exact Or.inl ⟨by rw [hx, List.append_nil], (List.cons_eq_cons.mp hb).2.symm⟩
    | cons d z =>
        obtain ⟨rfl, hrest⟩ := List.cons_eq_cons.mp hb
        exact Or.inr (Or.inl ⟨z, hx, hrest⟩)
  · cases z with
    | nil => exact Or.inl ⟨by rw [ha, List.append_nil], (List.cons_eq_cons.mp hy).2⟩
    | cons d z =>
        obtain ⟨rfl, -⟩ := List.cons_eq_cons.mp hy
        exact Or.inr (Or.inr ⟨z, ha⟩)

/-- Texts are cut at the first of some character in one way only. -/
lemma cut_first {c : Char} : ∀ {a a' b b' : Text}, c ∉ a → c ∉ a' → a ++ c :: b = a' ++ c :: b' →
    a = a' ∧ b = b'
  | [], [], _, _, _, _, h => ⟨rfl, (List.cons_inj_right c).mp h⟩
  | [], d :: a', _, _, _, ha', h => by
      obtain ⟨rfl, -⟩ := List.cons_eq_cons.mp h
      exact absurd List.mem_cons_self ha'
  | d :: a, [], _, _, ha, _, h => by
      obtain ⟨rfl, -⟩ := List.cons_eq_cons.mp h
      exact absurd List.mem_cons_self ha
  | d :: a, d' :: a', _, _, ha, ha', h => by
      obtain ⟨rfl, hrest⟩ := List.cons_eq_cons.mp h
      obtain ⟨rfl, rfl⟩ := cut_first (fun hmem => ha (List.mem_cons_of_mem d hmem))
        (fun hmem => ha' (List.mem_cons_of_mem d hmem)) hrest
      exact ⟨rfl, rfl⟩

/-- And at the last one. -/
lemma cut_last {c : Char} {a a' b b' : Text} (hb : c ∉ b) (hb' : c ∉ b')
    (h : a ++ c :: b = a' ++ c :: b') : a = a' ∧ b = b' := by
  have hreverse := congrArg List.reverse h
  simp only [List.reverse_append, List.reverse_cons, List.append_assoc, List.singleton_append]
    at hreverse
  obtain ⟨hback, hfront⟩ := cut_first (fun hmem => hb (List.mem_reverse.mp hmem))
    (fun hmem => hb' (List.mem_reverse.mp hmem)) hreverse
  exact ⟨List.reverse_inj.mp hfront, List.reverse_inj.mp hback⟩

/-- The pieces of a text stand in it, without the character at which it is split. -/
lemma of_mem_splitOn {c : Char} (t : Text) : ∀ piece ∈ t.splitOn c, c ∉ piece ∧ piece <:+: t := by
  induction hlen : t.length using Nat.strong_induction_on generalizing t with
  | _ n ih =>
      by_cases hmem : c ∈ t
      · obtain ⟨l, r, rfl, hl⟩ := List.eq_append_cons_of_mem hmem
        rw [List.splitOn_append_cons_self_of_not_mem hl]
        intro piece hpiece
        rcases List.mem_cons.mp hpiece with rfl | hpiece
        · exact ⟨hl, (List.prefix_append piece _).isInfix⟩
        · have hlt : r.length < n := by
            rw [← hlen, List.length_append, List.length_cons]
            omega
          obtain ⟨hnot, hoccurs⟩ := ih r.length hlt r rfl piece hpiece
          exact ⟨hnot, hoccurs.trans ⟨l ++ [c], [], by simp⟩⟩
      · rw [splitOn_of_not_mem hmem]
        simpa using hmem

lemma joinWith_append (sep : Text) {us : List Text} (hus : us ≠ []) : ∀ {ts : List Text}, ts ≠ [] →
    joinWith sep (ts ++ us) = joinWith sep ts ++ (sep ++ joinWith sep us)
  | [t], _ => by
      obtain ⟨u, us, rfl⟩ := List.exists_cons_of_ne_nil hus
      exact (joinWith_cons_cons sep t u us).trans (by simp [joinWith])
  | t :: u :: ts, _ => by
      have ih := joinWith_append sep hus (List.cons_ne_nil u ts)
      rw [List.cons_append] at ih ⊢
      rw [List.cons_append, joinWith_cons_cons, ih, joinWith_cons_cons]
      simp

lemma of_mem_joinWith {sep : Text} {c : Char} : ∀ {ts : List Text}, c ∈ joinWith sep ts →
    c ∈ sep ∨ ∃ t ∈ ts, c ∈ t
  | [], h => by simp [joinWith] at h
  | [t], h => by
      right
      simpa [joinWith] using h
  | t :: u :: us, h => by
      rw [joinWith_cons_cons, List.mem_append, List.mem_append] at h
      rcases h with h | h | h
      · exact Or.inr ⟨t, List.mem_cons_self, h⟩
      · exact Or.inl h
      · refine (of_mem_joinWith h).imp_right ?_
        rintro ⟨v, hv, hc⟩
        exact ⟨v, List.mem_cons_of_mem t hv, hc⟩

end Amend.Text
