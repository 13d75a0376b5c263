import Amend.Compiler
import Amend.Proofs.PathComponents
import Amend.Proofs.Places

/-!
# Whose diagnostics a check keeps

A check of one file reports on the files that it imports as well, and `ownDiagnostics` drops what is
reported on those.  A file is told from another by its path alone.

**Paths.**  Two paths fit if the components of the one are an end of those of the other
(`FileKey.fits_iff`).  That is meant for an absolute path and a relative one of the same file.

**Lines.**  A text without boundaries is one line (`Text.splitLines_of_no_end`), which is kept or
dropped (`ownDiagnostics_line`).

**Two relative paths** that fit need not name one file: `src/Main.mo` and `Main.mo` are two files,
and a check of the first keeps what is reported on the second.  `ownDiagnostics_keeps_iff` says
exactly when a line is kept.
-/

namespace Amend

/-! ## Paths -/

namespace FileKey

variable {a b p : Text}

/-- **A plain relative path**: it does not start at the root, it is spelled without backslashes, and
none of its components stands for a directory that is given by another one. -/
structure PlainRelative (path : Text) : Prop where
  relative : path.head? ≠ some '/'
  no_backslash : '\\' ∉ path
  named : ∀ part ∈ path.splitOn '/', part ≠ ['.'] ∧ part ≠ ['.', '.']

instance (path : Text) : Decidable (PlainRelative path) :=
  decidable_of_iff (path.head? ≠ some '/' ∧ '\\' ∉ path ∧
      ∀ part ∈ path.splitOn '/', part ≠ ['.'] ∧ part ≠ ['.', '.'])
    ⟨fun ⟨h₁, h₂, h₃⟩ => ⟨h₁, h₂, h₃⟩, fun h => ⟨h.relative, h.no_backslash, h.named⟩⟩

/-- Nothing about a plain path is normalized. -/
lemma PlainRelative.components_eq (h : PlainRelative p) : components p = p.splitOn '/' := by
  have hmap : p.map (fun c => if c = '\\' then '/' else c) = p := by
    refine (List.map_congr_left fun c hc => ?_).trans (List.map_id p)
    exact if_neg fun heq : c = '\\' => h.no_backslash (heq ▸ hc)
  have hdrop : dropCurrent p = p := by
    unfold dropCurrent
    split
    · next rest =>
      have hparts : ('.' :: '/' :: rest).splitOn '/' = ['.'] :: rest.splitOn '/' :=
        List.splitOn_append_cons_self_of_not_mem (by decide : '/' ∉ ['.']) rest
      exact absurd rfl (h.named ['.'] (by simp [hparts])).1
    · rfl
  rw [components, normalize, hmap, hdrop]

/-- The path is another one, seen from a directory further up. -/
def SeenFromAbove (path other : Text) : Prop :=
  ∃ dirs : List Text, dirs ≠ [] ∧ path.splitOn '/' = dirs ++ other.splitOn '/'

lemma splitOn_suffix_iff_seenFromAbove :
    b.splitOn '/' <:+ a.splitOn '/' ↔ a = b ∨ SeenFromAbove a b := by
  constructor
  · intro h
    by_cases heq : a = b
    · exact Or.inl heq
    · obtain ⟨dirs, hdirs⟩ := h
      refine Or.inr ⟨dirs, ?_, hdirs.symm⟩
      rintro rfl
      have hjoin : ∀ p : Text, Text.joinWith ['/'] (p.splitOn '/') = p :=
        fun p => List.intercalate_splitOn '/'
      refine heq ?_
      rw [← hjoin a, ← hdirs, List.nil_append, hjoin]
  · rintro (rfl | ⟨dirs, -, hdirs⟩)
    · exact List.suffix_rfl
    · exact ⟨dirs, hdirs.symm⟩

/-- Plain relative paths fit if they are the same, or if one of them is the other one seen from
further up. -/
lemma PlainRelative.fits_iff (ha : PlainRelative a) (hb : PlainRelative b) :
    fits a b ↔ b = a ∨ SeenFromAbove b a ∨ SeenFromAbove a b := by
  rw [FileKey.fits_iff, ha.components_eq, hb.components_eq, splitOn_suffix_iff_seenFromAbove,
    splitOn_suffix_iff_seenFromAbove, eq_comm (a := a)]
  tauto

end FileKey

/-! ## Lines -/

namespace Text

variable {l : Text}

lemma newline_not_mem_of_no_end (hl : ∀ c ∈ l, ¬ isLineEnd c) : '\n' ∉ l :=
  fun hmem => hl _ hmem (by decide)

lemma lineSegmentsFrom_append (hl : ∀ c ∈ l, ¬ isLineEnd c) (current t : Text) :
    lineSegmentsFrom current (l ++ t) = lineSegmentsFrom (l.reverse ++ current) t := by
  induction l generalizing current with
  | nil => rfl
  | cons c l ih =>
      obtain ⟨hc, hl⟩ := List.forall_mem_cons.mp hl
      have hreturn : c ≠ '\r' := by
        rintro rfl
        exact hc (by decide)
      rw [List.cons_append, lineSegmentsFrom, if_neg hc, ih hl]
      · simp
      · intro cs h
        exact absurd h hreturn

/-- A text that no boundary ends is one line. -/
lemma splitLines_of_no_end (hl : ∀ c ∈ l, ¬ isLineEnd c) (hne : l ≠ []) : l.splitLines = [l] := by
  have hsegments := lineSegmentsFrom_append hl [] []
  rw [List.append_nil, List.append_nil] at hsegments
  obtain ⟨c, cs, hreverse⟩ := List.exists_cons_of_ne_nil (List.reverse_ne_nil_iff.mpr hne)
  rw [splitLines, lineSegments, hsegments, hreverse, lineSegmentsFrom, ← hreverse]
  · simp
  · simp

end Text

/-! ## Own and foreign lines -/

lemma Diagnostic.parseAll_line {line : Text} (h : '\n' ∉ line) :
    parseAll line = (ofLine? line).toList := by
  rw [parseAll, Text.lines_of_not_mem h]
  cases hline : ofLine? line <;> simp [hline]

/-- **A line is foreign if it reports on a file whose path does not fit.** -/
lemma isForeign_eq (file : Text) {line : Text} (h : '\n' ∉ line) :
    isForeign file line = (Diagnostic.ofLine? line).any fun d => !FileKey.fits file d.file := by
  rw [isForeign, Diagnostic.parseAll_line h]
  cases hline : Diagnostic.ofLine? line with
  | none => rfl
  | some d => cases hfits : FileKey.fits file d.file <;> simp [FileKey.find?_singleton, hfits]

/-- A single line is kept or dropped. -/
lemma ownDiagnostics_line (file : Text) {line : Text} (hline : ∀ c ∈ line, ¬ isLineEnd c)
    (hne : line ≠ []) :
    ownDiagnostics line file = if isForeign file line then [] else line := by
  rw [ownDiagnostics, Text.splitLines_of_no_end hline hne]
  cases hforeign : isForeign file line <;> simp [hforeign, Text.joinWith]

/-- **Which diagnostics a check of a file keeps.**  Between two plain relative paths, it keeps those
of the file itself, and also those of a file whose path is an end of the checked one or the other
way round.  Everything else is dropped. -/
theorem ownDiagnostics_keeps_iff (file line : Text) (d : Diagnostic)
    (hline : ∀ c ∈ line, ¬ isLineEnd c) (hd : Diagnostic.parseAll line = [d])
    (hfile : FileKey.PlainRelative file) (hreported : FileKey.PlainRelative d.file) :
    (ownDiagnostics line file = line ↔ d.file = file ∨
        FileKey.SeenFromAbove d.file file ∨ FileKey.SeenFromAbove file d.file) ∧
      (ownDiagnostics line file = [] ↔ ownDiagnostics line file ≠ line) := by
  have hnewline := Text.newline_not_mem_of_no_end hline
  have hne : line ≠ [] := by
    rintro rfl
    have hnone : Diagnostic.parseAll [] = [] := by decide
    rw [hnone] at hd
    cases hd
  have hread : Diagnostic.ofLine? line = some d := by
    rw [Diagnostic.parseAll_line hnewline] at hd
    simpa using hd
  have hforeign : isForeign file line = !FileKey.fits file d.file := by
    rw [isForeign_eq file hnewline, hread]
    rfl
  rw [← hfile.fits_iff hreported, ownDiagnostics_line file hline hne, hforeign]
  cases FileKey.fits file d.file <;> simp [hne, hne.symm]

/-- Two files of one name in different directories are told apart. -/
theorem ownDiagnostics_keeps_iff_sibling :
    let file : Text := "src/Main.mo"
    let line : Text := " lib/Main.mo:1.1-1.2: warning [M0223], x"
    let d : Diagnostic := ⟨"lib/Main.mo", .ofCoords 0 0 0 1, "M0223", "x", .warning⟩
    Diagnostic.parseAll line = [d] ∧ FileKey.PlainRelative file ∧ FileKey.PlainRelative d.file ∧
      ownDiagnostics line file = [] := by
  intro file line d
  have hd : Diagnostic.parseAll line = [d] := by decide +kernel
  have hfile : FileKey.PlainRelative file := by decide
  have hreported : FileKey.PlainRelative d.file := by decide
  have hline : ∀ c ∈ line, ¬ isLineEnd c := by
    have hall : line.all (fun c => !isLineEnd c) := by decide
    simpa using hall
  obtain ⟨hkept, hdropped⟩ :=
    ownDiagnostics_keeps_iff file line d hline hd hfile hreported
  refine ⟨hd, hfile, hreported, hdropped.mpr fun h => ?_⟩
  -- Neither path has a component more than the other.
  have hsame : ∀ dirs : List Text, dirs ≠ [] → (dirs.length + 2 ≠ 2) := by simp
  rcases hkept.mp h with heq | ⟨dirs, hne, hdirs⟩ | ⟨dirs, hne, hdirs⟩
  · exact absurd heq (by decide)
  · exact hsame dirs hne (List.length_append.symm.trans (congrArg List.length hdirs).symm)
  · exact hsame dirs hne (List.length_append.symm.trans (congrArg List.length hdirs).symm)

/-- **A diagnostic of another file is kept**, since its path is an end of the checked one. -/
theorem ownDiagnostics_keeps_other :
    let file : Text := "src/Main.mo"
    let line : Text := "Main.mo:1.1-1.2: warning [M0223], x"
    let d : Diagnostic := ⟨"Main.mo", .ofCoords 0 0 0 1, "M0223", "x", .warning⟩
    Diagnostic.parseAll line = [d] ∧ FileKey.PlainRelative file ∧ FileKey.PlainRelative d.file ∧
      d.file ≠ file ∧ ownDiagnostics line file = line := by
  decide +kernel

end Amend
