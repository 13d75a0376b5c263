import Amend.FileKey
import Amend.Proofs.Occurrences

/-!
# Paths by their components

Whether a reported path means a supplied file is decided on the texts of the two paths: one of them
ends with a slash and the other.  Seen as a list of components, one of them is an end of the other.

**Components.**  `FileKey.IsSpelling` says what the components of a path are, without normalizing
it: the path is any number of `./` followed by the components with slashes between them, where each
slash may be a backslash.  Every path has one list of components (`isSpelling_iff`).

**Ends.**  A text ends with a slash and another one if its components end with those of the other
(`splitOn_suffix_iff`), whatever the components are; they may be empty.

**Files.**  `find?_by_components`: a path that is supplied means itself, and any other the first
supplied path of which the components end alike.
-/

namespace Amend.FileKey

variable {a b path : Text} {parts : List Text}

/-! ## Components -/

/-- **A path as it is spelled**: any number of `./`, and the components with slashes or backslashes
between them.  No further `./` stands in front of the components. -/
structure IsSpelling (path : Text) (parts : List Text) : Prop where
  ne_nil : parts ≠ []
  slash_not_mem : ∀ part ∈ parts, '/' ∉ part
  not_current : ¬ ['.', '/'] <+: Text.joinWith ['/'] parts
  spelled : ∃ n, path.map (fun c => if c = '\\' then '/' else c)
    = (List.replicate n ['.', '/']).flatten ++ Text.joinWith ['/'] parts

/-- What is dropped is `./`, as often as it stands there. -/
lemma dropCurrent_spec (t : Text) : ¬ ['.', '/'] <+: dropCurrent t ∧
    ∃ n, t = (List.replicate n ['.', '/']).flatten ++ dropCurrent t := by
  fun_induction dropCurrent t with
  | case1 rest ih =>
      obtain ⟨hplain, n, hn⟩ := ih
      refine ⟨hplain, n + 1, ?_⟩
      rw [List.replicate_succ, List.flatten_cons, List.append_assoc, ← hn]
      rfl
  | case2 t hplain =>
      refine ⟨?_, 0, rfl⟩
      rintro ⟨rest, rfl⟩
      exact hplain rest rfl

lemma dropCurrent_append {t : Text} (h : ¬ ['.', '/'] <+: t) (n : Nat) :
    dropCurrent ((List.replicate n ['.', '/']).flatten ++ t) = t := by
  induction n with
  | zero =>
      rw [List.replicate_zero, List.flatten_nil, List.nil_append]
      unfold dropCurrent
      split
      · next rest => exact absurd ⟨rest, rfl⟩ h
      · rfl
  | succ n ih =>
      rw [List.replicate_succ, List.flatten_cons, List.append_assoc]
      exact ih

/-- **Every path has one list of components.** -/
lemma isSpelling_iff : IsSpelling path parts ↔ parts = components path := by
  constructor
  · rintro ⟨hne, hslash, hplain, n, hn⟩
    rw [components, normalize, hn, dropCurrent_append hplain n]
    exact (List.splitOn_intercalate '/' hslash hne).symm
  · rintro rfl
    obtain ⟨hplain, n, hn⟩ := dropCurrent_spec (path.map fun c => if c = '\\' then '/' else c)
    have hjoin : Text.joinWith ['/'] (components path) = normalize path :=
      List.intercalate_splitOn '/'
    have hslash : ∀ part ∈ components path, '/' ∉ part :=
      fun part hpart => (Text.of_mem_splitOn _ part hpart).1
    refine ⟨List.splitOn_ne_nil _ _, hslash, ?_, n, ?_⟩
    · rwa [hjoin]
    · rw [hjoin]
      exact hn

/-! ## Ends -/

/-- **A path ends with another one after a slash** if its components end with those of the other. -/
lemma splitOn_suffix_iff : b.splitOn '/' <:+ a.splitOn '/' ↔ a = b ∨ '/' :: b <:+ a := by
  constructor
  · rintro ⟨dirs, hdirs⟩
    have ha : Text.joinWith ['/'] (dirs ++ b.splitOn '/') = a := by
      rw [hdirs]
      exact List.intercalate_splitOn '/'
    have hb : Text.joinWith ['/'] (b.splitOn '/') = b := List.intercalate_splitOn '/'
    by_cases hnil : dirs = []
    · rw [hnil, List.nil_append, hb] at ha
      exact Or.inl ha.symm
    · rw [Text.joinWith_append _ (List.splitOn_ne_nil '/' b) hnil, hb] at ha
      exact Or.inr ⟨_, ha⟩
  · rintro (rfl | ⟨front, rfl⟩)
    · exact List.suffix_rfl
    · rw [List.splitOn_eq_splitOnP, List.splitOn_eq_splitOnP,
        List.splitOnP_append_cons front b (by simp)]
      exact List.suffix_append _ _

/-- **Two paths fit if the components of the one are an end of those of the other.** -/
lemma fits_iff : fits a b ↔ components a <:+ components b ∨ components b <:+ components a := by
  simp only [fits, components, splitOn_suffix_iff, Bool.or_eq_true, beq_iff_eq,
    List.isSuffixOf_iff_suffix]
  constructor
  · rintro ((h | h) | h)
    · exact Or.inl (Or.inl h.symm)
    · exact Or.inr (Or.inr h)
    · exact Or.inl (Or.inr h)
  · rintro ((h | h) | (h | h))
    · exact Or.inl (Or.inl h.symm)
    · exact Or.inr h
    · exact Or.inl (Or.inl h)
    · exact Or.inl (Or.inr h)

/-- **Two paths end alike**: the components of the one are an end of those of the other. -/
def EndAlike (a b : Text) : Prop :=
  ∃ parts parts', IsSpelling a parts ∧ IsSpelling b parts' ∧ (parts <:+ parts' ∨ parts' <:+ parts)

lemma fits_iff_endAlike : fits a b ↔ EndAlike a b := by
  rw [fits_iff]
  constructor
  · intro h
    exact ⟨_, _, isSpelling_iff.mpr rfl, isSpelling_iff.mpr rfl, h⟩
  · rintro ⟨parts, parts', hparts, hparts', h⟩
    rwa [isSpelling_iff.mp hparts, isSpelling_iff.mp hparts'] at h

/-! ## Files -/

variable {keys : List Text} {key reported : Text}

lemma find?_of_mem (h : reported ∈ keys) : find? keys reported = some reported := by
  rw [find?, if_pos (List.contains_iff_mem.mpr h)]

lemma find?_of_not_mem (h : reported ∉ keys) :
    find? keys reported = keys.find? (fits · reported) := by
  rw [find?, if_neg fun hmem => h (List.contains_iff_mem.mp hmem)]

/-- A path fits itself. -/
lemma fits_self (path : Text) : fits path path := fits_iff.mpr (Or.inl List.suffix_rfl)

/-- One supplied file is meant by the paths that fit its own. -/
lemma find?_singleton (key reported : Text) :
    find? [key] reported = if fits key reported then some key else none := by
  by_cases heq : reported = key
  · rw [heq, find?_of_mem List.mem_cons_self, if_pos (fits_self key)]
  · rw [find?_of_not_mem (by simpa using heq)]
    by_cases hfits : fits key reported <;> simp [hfits]

/-- **The first supplied path that fits is taken.** -/
lemma find?_eq_some_iff (h : reported ∉ keys) : find? keys reported = some key ↔
    ∃ before behind, keys = before ++ key :: behind ∧ EndAlike key reported ∧
      ∀ k ∈ before, ¬ EndAlike k reported := by
  simp only [find?_of_not_mem h, List.find?_eq_some_iff_append, ← fits_iff_endAlike,
    Bool.not_eq_true', Bool.not_eq_true]
  constructor
  · rintro ⟨hfits, before, behind, hkeys, hbefore⟩
    exact ⟨before, behind, hkeys, hfits, hbefore⟩
  · rintro ⟨before, behind, hkeys, hfits, hbefore⟩
    exact ⟨hfits, before, behind, hkeys, hbefore⟩

/-- **A path means no file if none of the supplied paths fits.** -/
lemma find?_eq_none_iff : find? keys reported = none ↔ ∀ k ∈ keys, ¬ EndAlike k reported := by
  by_cases h : reported ∈ keys
  · rw [find?_of_mem h]
    refine iff_of_false (Option.some_ne_none _) fun hnone => ?_
    exact hnone reported h (fits_iff_endAlike.mp (fits_self reported))
  · simp only [find?_of_not_mem h, List.find?_eq_none, fits_iff_endAlike]

/-- **Which file a reported path means.**  A path that is supplied means itself.  Any other means
the first of the supplied paths that ends like it, component by component; and it means none if
there is no such path. -/
theorem find?_by_components (keys : List Text) (reported : Text) :
    (reported ∈ keys → find? keys reported = some reported) ∧
      (reported ∉ keys → ∀ key, find? keys reported = some key ↔
        ∃ before behind, keys = before ++ key :: behind ∧ EndAlike key reported ∧
          ∀ k ∈ before, ¬ EndAlike k reported) ∧
      (find? keys reported = none ↔ ∀ k ∈ keys, ¬ EndAlike k reported) :=
  ⟨find?_of_mem, fun h _ => find?_eq_some_iff h, find?_eq_none_iff⟩

/-- The first path ends with the reported one, but not with its components.  The second does, and
the last one would do too. -/
theorem find?_by_components_first :
    let keys : List Text := ["my-src/Main.mo", ".\\lib//src\\Main.mo", "Main.mo"]
    let reported : Text := "././src/Main.mo"
    let key : Text := ".\\lib//src\\Main.mo"
    reported ∉ keys ∧ find? keys reported = some key ∧ EndAlike key reported ∧
      ¬ EndAlike "my-src/Main.mo" reported := by
  intro keys reported key
  have hnot : reported ∉ keys := by decide
  have hfound : find? keys reported = some key := by decide
  obtain ⟨before, behind, hkeys, halike, hbefore⟩ :=
    ((find?_by_components keys reported).2.1 hnot key).mp hfound
  refine ⟨hnot, hfound, halike, hbefore _ ?_⟩
  cases before with
  | nil => exact absurd (List.cons_eq_cons.mp hkeys).1 (by decide)
  | cons k before =>
      obtain ⟨rfl, -⟩ := List.cons_eq_cons.mp hkeys
      exact List.mem_cons_self

end Amend.FileKey
