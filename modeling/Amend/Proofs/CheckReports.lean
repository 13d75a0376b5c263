import Amend.Proofs.ArgumentLists
import Amend.Proofs.Effects
import Amend.Proofs.Grammar
import Amend.Proofs.Ownership
import Amend.Shadow

/-!
# What a check of several files reports

The output of a compiler is cut into lines at every boundary, lines of other files are dropped, what
is left is joined, and joined again for several files, and the whole is stripped before it is read.
No diagnostic gets lost on the way, and none comes up twice.

**Boundaries.**  If all boundaries are line feeds, alone or after a return (`Text.OnlyFeeds`), then
the lines that are cut at every boundary are those between line feeds, except for a return at the
end.

**Blanks.**  What a line reports does not depend on the blanks at its ends, provided that something
else stands in the path and at the end of the message (`Diagnostic.Solid`).  So the return makes no
difference, and stripping makes none either (`Diagnostic.parseAll_strip`).

**Files.**  Each file is checked with the next reply of the compiler (`Workbench.upcoming`).  Of its
output the diagnostics of the file are left (`parseAll_ownDiagnostics`), and joining puts those of
several files one behind the other (`Diagnostic.parse_joinOutputs`).
-/

namespace Amend

/-! ## Boundaries -/

namespace Text

variable {l t : Text}

/-- A return and a line feed end a line together. -/
lemma lineSegments_append_pair (hl : ∀ c ∈ l, ¬ isLineEnd c) (rest : Text) :
    lineSegments (l ++ '\r' :: '\n' :: rest) = (l, ['\r', '\n']) :: rest.lineSegments := by
  rw [lineSegments, lineSegmentsFrom_append hl, lineSegmentsFrom]
  simp [lineSegments]

/-- Every other boundary ends a line by itself. -/
lemma lineSegments_append_end (hl : ∀ c ∈ l, ¬ isLineEnd c) {c : Char} (hc : isLineEnd c)
    {rest : Text} (hpair : c = '\r' → rest.head? ≠ some '\n') :
    lineSegments (l ++ c :: rest) = (l, [c]) :: rest.lineSegments := by
  rw [lineSegments, lineSegmentsFrom_append hl, lineSegmentsFrom]
  · simp [hc, lineSegments]
  · rintro cs rfl rfl
    exact hpair rfl rfl

/-- **Induction on lines at every boundary.**  A text is a single line, or a line and its boundary
in front of a text. -/
lemma segment_induction {P : Text → Prop} (last : ∀ l : Text, (∀ c ∈ l, ¬ isLineEnd c) → P l)
    (more : ∀ l ending rest : Text, (∀ c ∈ l, ¬ isLineEnd c) → ending ≠ [] →
      lineSegments (l ++ (ending ++ rest)) = (l, ending) :: rest.lineSegments → P rest →
        P (l ++ (ending ++ rest))) (t : Text) : P t := by
  induction hlength : t.length using Nat.strong_induction_on generalizing t with
  | _ n ih =>
      cases hfind : t.find? isLineEnd with
      | none =>
          refine last t fun c hc => ?_
          exact List.find?_eq_none.mp hfind c hc
      | some c =>
          obtain ⟨hc, l, rest, rfl, hl⟩ := List.find?_eq_some_iff_append.mp hfind
          have hl : ∀ d ∈ l, ¬ isLineEnd d := by simpa using hl
          simp only [List.length_append, List.length_cons] at hlength
          by_cases hpair : c = '\r' ∧ rest.head? = some '\n'
          · obtain ⟨rfl, hhead⟩ := hpair
            obtain ⟨rest, rfl⟩ := List.head?_eq_some_iff.mp hhead
            refine more l ['\r', '\n'] rest hl (by simp) (lineSegments_append_pair hl rest) ?_
            exact ih rest.length (by simp at hlength; omega) rest rfl
          · refine more l [c] rest hl (by simp) (lineSegments_append_end hl hc ?_) ?_
            · exact fun hreturn hhead => hpair ⟨hreturn, hhead⟩
            · exact ih rest.length (by omega) rest rfl

/-- No line holds a boundary. -/
lemma no_end_of_mem_splitLines (t : Text) : ∀ l ∈ t.splitLines, ∀ c ∈ l, ¬ isLineEnd c := by
  induction t using segment_induction with
  | last l hl =>
      by_cases hnil : l = []
      · simp [hnil, splitLines, lineSegments, lineSegmentsFrom]
      · simpa [splitLines_of_no_end hl hnil] using hl
  | more l ending rest hl _ hsegments ih =>
      rw [splitLines, hsegments, List.map_cons, ← splitLines, List.forall_mem_cons]
      exact ⟨hl, ih⟩

lemma splitLines_append_newline (hl : ∀ c ∈ l, ¬ isLineEnd c) (rest : Text) :
    splitLines (l ++ '\n' :: rest) = l :: rest.splitLines := by
  have hsegments : lineSegments (l ++ '\n' :: rest) = (l, ['\n']) :: rest.lineSegments :=
    lineSegments_append_end hl (by decide) (by simp)
  rw [splitLines, hsegments, List.map_cons, ← splitLines]

lemma splitLines_append_return (hl : ∀ c ∈ l, ¬ isLineEnd c) (rest : Text) :
    splitLines (l ++ '\r' :: '\n' :: rest) = l :: rest.splitLines := by
  rw [splitLines, lineSegments_append_pair hl, List.map_cons, ← splitLines]

/-- **Every boundary in the text is a line feed**, alone or after a return. -/
def OnlyFeeds (t : Text) : Prop :=
  ∀ s ∈ t.lineSegments, s.2 = [] ∨ s.2 = ['\n'] ∨ s.2 = ['\r', '\n']

instance (t : Text) : Decidable t.OnlyFeeds :=
  inferInstanceAs (Decidable (∀ s ∈ t.lineSegments, s.2 = [] ∨ s.2 = ['\n'] ∨ s.2 = ['\r', '\n']))

/-- Blanks behind a text only count if they stay when returns are dropped. -/
lemma dropEndReturns_append_blank {m g : Text} (hg : ∀ c ∈ g, isBlank c)
    (h : (m ++ g).dropEndReturns.dropEndWhile isBlank = (m ++ g).dropEndReturns) :
    (m ++ g).dropEndReturns = m.dropEndReturns := by
  obtain ⟨r, hr, hreturns⟩ := exists_append_dropEndWhile (· == '\r') (m ++ g)
  rw [← dropEndReturns] at hr
  generalize hleft : (m ++ g).dropEndReturns = k at h hr ⊢
  have hblank : ∀ c ∈ r, isBlank c := by
    intro c hc
    obtain rfl : c = '\r' := by simpa using hreturns c hc
    decide
  -- What is left of the text is also left of `m` if all blanks at its end are dropped.
  have hk : m.dropEndWhile isBlank = k := by
    rw [← dropEndWhile_append hg, hr, dropEndWhile_append hblank, h]
  obtain ⟨r', hr', -⟩ := exists_append_dropEndWhile isBlank m
  rw [hk] at hr'
  have hrest : r' ++ g = r := by
    rw [hr', List.append_assoc] at hr
    exact List.append_cancel_left hr
  have hreturns' : ∀ c ∈ r', c == '\r' := by
    intro c hc
    exact hreturns c (hrest ▸ List.mem_append_left g hc)
  calc k = (k ++ r).dropEndReturns := by rw [← hr, hleft]
    _ = k.dropEndReturns := dropEndWhile_append hreturns k
    _ = (k ++ r').dropEndReturns := (dropEndWhile_append hreturns' k).symm
    _ = m.dropEndReturns := by rw [← hr']

end Text

/-! ## Blanks around a line -/

section

variable {l : DiagnosticLine} {t g : Text}

/-- The path is the beginning of a line, and a colon follows it. -/
lemma DiagnosticLine.exists_write_withFile (l : DiagnosticLine) :
    ∃ b, ∀ file, ({ l with file } : DiagnosticLine).write = file ++ ':' :: b := by
  obtain ⟨b, hb⟩ : ∃ b, ({ l with file := [] } : DiagnosticLine).write = ':' :: b := ⟨_, write_eq _⟩
  refine ⟨b, fun file => ?_⟩
  rw [← hb]
  simp [write]

/-- The message is the end of a line, behind a comma and a blank. -/
lemma DiagnosticLine.exists_write_withMessage (l : DiagnosticLine) :
    ∃ a, ∀ message, ({ l with message } : DiagnosticLine).write = a ++ ',' :: ' ' :: message := by
  have hcomma : [',', ' '] <:+ ({ l with message := [] } : DiagnosticLine).write := by
    rw [write, List.append_nil]
    exact List.IsSuffix.trans (by decide) (List.suffix_append _ _)
  obtain ⟨a, ha⟩ := hcomma
  refine ⟨a, fun message => ?_⟩
  have hsplit : a ++ ',' :: ' ' :: message = a ++ [',', ' '] ++ message := by simp
  rw [hsplit, ha]
  simp [write]

/-- Blanks in front of a line belong to its path. -/
lemma ReadsAs.blank_append (h : ReadsAs t l) (g : Text) (hg : ∀ c ∈ g, isBlank c) :
    ReadsAs (g ++ t) { l with file := g ++ l.file } := by
  obtain ⟨b, hb⟩ := l.exists_write_withFile
  obtain ⟨hform, hwrite⟩ := h
  refine ⟨{ hform with file_ne := ?_, file_colon := ?_ }, ?_⟩
  · simp [hform.file_ne]
  · intro hmem
    rcases List.mem_append.mp hmem with hmem | hmem
    · exact absurd (hg _ hmem) (by decide)
    · exact hform.file_colon hmem
  · have hl : l.write = _ := hb l.file
    rw [hb, ← hwrite, hl, List.append_assoc]

lemma ReadsAs.of_blank_append (h : ReadsAs (g ++ t) l) (hg : ∀ c ∈ g, isBlank c)
    (hfile : ¬ l.file.isBlankText) :
    ∃ file, l.file = g ++ file ∧ ReadsAs t { l with file } := by
  obtain ⟨b, hb⟩ := l.exists_write_withFile
  obtain ⟨hform, hwrite⟩ := h
  have hl : l.write = _ := hb l.file
  have hcolon : ':' ∉ g := fun hmem => absurd (hg _ hmem) (by decide)
  obtain ⟨file, hfile', ht⟩ := Text.beginning_of_append_cons hcolon (hwrite.symm.trans hl)
  refine ⟨file, hfile', { hform with file_ne := ?_, file_colon := ?_ }, (hb file).trans ht.symm⟩
  · rintro rfl
    rw [hfile', List.append_nil] at hfile
    exact hfile (List.all_eq_true.mpr hg)
  · intro hmem
    exact hform.file_colon (hfile' ▸ List.mem_append_right g hmem)

/-- And blanks behind it belong to its message. -/
lemma ReadsAs.append_blank (h : ReadsAs t l) (g : Text) :
    ReadsAs (t ++ g) { l with message := l.message ++ g } := by
  obtain ⟨a, ha⟩ := l.exists_write_withMessage
  obtain ⟨hform, hwrite⟩ := h
  refine ⟨{ hform with message := by simp [hform.message] }, ?_⟩
  have hl : l.write = _ := ha l.message
  rw [ha, ← hwrite, hl]
  simp

lemma ReadsAs.of_append_blank (h : ReadsAs (t ++ g) l) (hg : ∀ c ∈ g, isBlank c)
    (hmessage : ¬ l.message.isBlankText) :
    ∃ message, l.message = message ++ g ∧ ReadsAs t { l with message } := by
  obtain ⟨a, ha⟩ := l.exists_write_withMessage
  obtain ⟨hform, hwrite⟩ := h
  have hl : l.write = _ := ha l.message
  have hcomma : ',' ∉ g := fun hmem => absurd (hg _ hmem) (by decide)
  obtain ⟨z, ht, hz⟩ := Text.end_of_append_cons hcomma (hwrite.symm.trans hl)
  cases z with
  | nil =>
      rw [List.nil_append] at hz
      refine absurd (List.all_eq_true.mpr fun c hc => ?_) hmessage
      exact hg c (hz ▸ List.mem_cons_of_mem _ hc)
  | cons c message =>
      rw [List.cons_append] at hz
      obtain ⟨rfl, hl'⟩ := List.cons_eq_cons.mp hz
      refine ⟨message, hl', { hform with message := ?_ }, (ha message).trans ht.symm⟩
      rintro rfl
      rw [hl', List.nil_append] at hmessage
      exact hmessage (List.all_eq_true.mpr hg)

end

namespace Diagnostic

/-- **A diagnostic that no blanks are lost from.**  Something stands in its path and in its message,
and the message has no blanks at its end. -/
structure Solid (d : Diagnostic) : Prop where
  file : ¬ d.file.isBlankText
  message : ¬ d.message.isBlankText
  message_end : d.message.dropEndWhile isBlank = d.message

instance (d : Diagnostic) : Decidable d.Solid :=
  decidable_of_iff (¬ d.file.isBlankText ∧ ¬ d.message.isBlankText ∧
      d.message.dropEndWhile isBlank = d.message)
    ⟨fun ⟨h₁, h₂, h₃⟩ => ⟨h₁, h₂, h₃⟩, fun h => ⟨h.file, h.message, h.message_end⟩⟩

variable {t g : Text}

lemma ofLine?_eq_none_iff : ofLine? t = none ↔ ∀ l, ¬ ReadsAs t l := by
  constructor
  · intro h
    have hyields := yields_ofLine? t
    rwa [h] at hyields
  · intro h
    refine Option.eq_none_iff_forall_ne_some.mpr fun d hd => ?_
    obtain ⟨l, hreads, -⟩ := ofLine?_eq_some_iff.mp hd
    exact h l hreads

/-- **Blanks in front of a line do not count.** -/
lemma ofLine?_blank_append (hg : ∀ c ∈ g, isBlank c)
    (h : ∀ d, ofLine? (g ++ t) = some d → d.Solid) : ofLine? (g ++ t) = ofLine? t := by
  cases hline : ofLine? (g ++ t) with
  | none =>
      refine (ofLine?_eq_none_iff.mpr fun l hreads => ?_).symm
      exact ofLine?_eq_none_iff.mp hline _ (hreads.blank_append g hg)
  | some d =>
      obtain ⟨l, hreads, hreports⟩ := ofLine?_eq_some_iff.mp hline
      have hfile : ¬ l.file.isBlankText := by
        intro hblank
        have hsolid := (h d hline).file
        rw [hreports.file] at hsolid
        exact hsolid (List.all_eq_true.mpr fun c hc =>
          List.all_eq_true.mp hblank c (l.file.strip_sublist.subset hc))
      obtain ⟨file, hfile, hreads'⟩ := hreads.of_blank_append hg hfile
      refine (ofLine?_eq_some_iff.mpr ⟨_, hreads', { hreports with file := ?_ }⟩).symm
      rw [hreports.file, hfile, Text.strip_blank_append hg]

/-- **Blanks behind a line do not count.** -/
lemma ofLine?_append_blank (hg : ∀ c ∈ g, isBlank c)
    (h : ∀ d, ofLine? (t ++ g) = some d → d.Solid) : ofLine? (t ++ g) = ofLine? t := by
  cases hline : ofLine? (t ++ g) with
  | none =>
      refine (ofLine?_eq_none_iff.mpr fun l hreads => ?_).symm
      exact ofLine?_eq_none_iff.mp hline _ (hreads.append_blank g)
  | some d =>
      obtain ⟨l, hreads, hreports⟩ := ofLine?_eq_some_iff.mp hline
      have hsolid := h d hline
      have hmessage : ¬ l.message.isBlankText := by
        intro hblank
        obtain ⟨r, hr, -⟩ := Text.exists_append_dropEndWhile (· == '\r') l.message
        refine hsolid.message (List.all_eq_true.mpr fun c hc => ?_)
        rw [hreports.message] at hc
        exact List.all_eq_true.mp hblank c (hr ▸ List.mem_append_left r hc)
      obtain ⟨message, hmessage, hreads'⟩ := hreads.of_append_blank hg hmessage
      refine (ofLine?_eq_some_iff.mpr ⟨_, hreads', { hreports with message := ?_ }⟩).symm
      have hend := hsolid.message_end
      rw [hreports.message, hmessage] at hend
      rw [hreports.message, hmessage, Text.dropEndReturns_append_blank hg hend]

/-! ## Blanks around a text -/

lemma parseAll_append_newline (a b : Text) :
    parseAll (a ++ '\n' :: b) = parseAll a ++ parseAll b := by
  have hlines : (a ++ '\n' :: b).lines = a.lines ++ b.lines := by
    simp only [Text.lines, List.splitOn_eq_splitOnP]
    exact List.splitOnP_append_cons a b (by simp)
  rw [parseAll, hlines, List.filterMap_append, ← parseAll, ← parseAll]

lemma parseAll_of_blank (h : ∀ c ∈ t, isBlank c) : parseAll t = [] := by
  refine List.filterMap_eq_nil_iff.mpr fun line hline => ?_
  refine ofLine?_eq_none_iff.mpr fun l hreads => ?_
  obtain ⟨b, hb⟩ := l.exists_write_withFile
  have hcolon : ':' ∈ line := by
    rw [← hreads.2, show l.write = _ from hb l.file]
    simp
  have hmem : ':' ∈ t := (Text.of_mem_splitOn t line hline).2.subset hcolon
  exact absurd (h _ hmem) (by decide)

lemma parseAll_blank_append (hg : ∀ c ∈ g, isBlank c) (h : ∀ d ∈ parseAll (g ++ t), d.Solid) :
    parseAll (g ++ t) = parseAll t := by
  induction g using Text.line_induction with
  | last g hnewline =>
      -- The blanks stand on the first line.
      have hline : ∀ l, '\n' ∉ l → (∀ d ∈ parseAll (g ++ l), d.Solid) →
          parseAll (g ++ l) = parseAll l := by
        intro l hl hsolid
        have hgl : '\n' ∉ g ++ l := by simp [hnewline, hl]
        simp only [parseAll_line hgl, parseAll_line hl, Option.mem_toList] at hsolid ⊢
        rw [ofLine?_blank_append hg hsolid]
      by_cases hmem : '\n' ∈ t
      · obtain ⟨l, rest, rfl, hl⟩ := List.eq_append_cons_of_mem hmem
        rw [← List.append_assoc, parseAll_append_newline] at h ⊢
        rw [hline l hl (List.forall_mem_append.mp h).1, parseAll_append_newline]
      · exact hline t hmem h
  | more l rest hnewline ih =>
      rw [List.append_assoc, List.cons_append, parseAll_append_newline] at h ⊢
      obtain ⟨hl, hrest⟩ := List.forall_mem_append.mp hg
      rw [parseAll_of_blank hl, List.nil_append]
      exact ih (List.forall_mem_cons.mp hrest).2 (List.forall_mem_append.mp h).2

lemma parseAll_append_blank (hg : ∀ c ∈ g, isBlank c) (h : ∀ d ∈ parseAll (t ++ g), d.Solid) :
    parseAll (t ++ g) = parseAll t := by
  induction t using Text.line_induction with
  | last l hl =>
      -- The blanks begin on the last line.
      have hline : ∀ g, (∀ c ∈ g, isBlank c) → '\n' ∉ g → (∀ d ∈ parseAll (l ++ g), d.Solid) →
          parseAll (l ++ g) = parseAll l := by
        intro g hg hnewline hsolid
        have hlg : '\n' ∉ l ++ g := by simp [hnewline, hl]
        simp only [parseAll_line hlg, parseAll_line hl, Option.mem_toList] at hsolid ⊢
        rw [ofLine?_append_blank hg hsolid]
      by_cases hmem : '\n' ∈ g
      · obtain ⟨g, rest, rfl, hnewline⟩ := List.eq_append_cons_of_mem hmem
        rw [← List.append_assoc, parseAll_append_newline] at h ⊢
        obtain ⟨hg, hrest⟩ := List.forall_mem_append.mp hg
        rw [hline g hg hnewline (List.forall_mem_append.mp h).1,
          parseAll_of_blank (List.forall_mem_cons.mp hrest).2, List.append_nil]
      · exact hline g hg hmem h
  | more l rest hl ih =>
      rw [List.append_assoc, List.cons_append, parseAll_append_newline] at h ⊢
      rw [ih (List.forall_mem_append.mp h).2, parseAll_append_newline]

/-- **Stripping loses no diagnostic.** -/
lemma parseAll_strip (h : ∀ d ∈ parseAll t, d.Solid) : parseAll t.strip = parseAll t := by
  obtain ⟨g, g', ht, hg, hg'⟩ := t.exists_append_strip
  have hback : parseAll t = parseAll (g ++ t.strip) := by
    rw [ht] at h
    calc parseAll t = parseAll (g ++ t.strip ++ g') := by rw [← ht]
      _ = _ := parseAll_append_blank hg' h
  rw [hback] at h ⊢
  exact (parseAll_blank_append hg h).symm

/-! ## Joining -/

lemma parseAll_joinWith : ∀ chunks : List Text,
    parseAll (Text.joinWith ['\n'] chunks) = chunks.flatMap parseAll
  | [] => by decide
  | [chunk] => by simp [Text.joinWith]
  | chunk :: next :: chunks => by
      rw [Text.joinWith_cons_cons, List.singleton_append, parseAll_append_newline,
        parseAll_joinWith (next :: chunks)]
      simp only [List.flatMap_cons]

/-- **Joining the outputs loses no diagnostic.** -/
lemma parse_joinOutputs {outputs : List Text} (h : ∀ d ∈ outputs.flatMap parseAll, d.Solid) :
    parse (joinOutputs outputs) = outputs.flatMap parseAll := by
  have hblank : (outputs.filter fun t => !t.isBlankText).flatMap parseAll
      = outputs.flatMap parseAll := by
    clear h
    induction outputs with
    | nil => rfl
    | cons output outputs ih =>
        by_cases houtput : output.isBlankText
        · have hnone : parseAll output = [] := parseAll_of_blank (List.all_eq_true.mp houtput)
          simp [houtput, ih, hnone]
        · simp [houtput, ih]
  have hparse : parse (joinOutputs outputs)
      = parseAll (Text.joinWith ['\n'] (outputs.filter fun t => !t.isBlankText)).strip := by
    rw [joinOutputs]
    split
    · next hnil => rw [hnil]; decide
    · rfl
  rw [hparse, parseAll_strip, parseAll_joinWith, hblank]
  rwa [parseAll_joinWith, hblank]

/-! ## One check -/

lemma filterMap_ofLine?_cons (l : Text) (lines : List Text) :
    (l :: lines).filterMap ofLine? = (ofLine? l).toList ++ lines.filterMap ofLine? := by
  cases hl : ofLine? l <;> simp [hl]

/-- **Cutting at every boundary loses no diagnostic** of a text whose boundaries are line feeds. -/
lemma filterMap_splitLines_append (rest : Text) (hfeeds : t.OnlyFeeds)
    (h : ∀ d ∈ parseAll t, d.Solid) : (Text.splitLines (t ++ '\n' :: rest)).filterMap ofLine?
      = parseAll t ++ rest.splitLines.filterMap ofLine? := by
  induction t using Text.segment_induction with
  | last l hl =>
      rw [Text.splitLines_append_newline hl, filterMap_ofLine?_cons,
        parseAll_line (Text.newline_not_mem_of_no_end hl)]
  | more l ending t hl hne hsegments ih =>
      have hline := parseAll_line (Text.newline_not_mem_of_no_end hl)
      rw [Text.OnlyFeeds, hsegments, List.forall_mem_cons] at hfeeds
      obtain ⟨hending, hfeeds⟩ := hfeeds
      rcases hending.resolve_left hne with rfl | rfl
      · rw [List.singleton_append, parseAll_append_newline] at h ⊢
        rw [List.append_assoc, List.cons_append, Text.splitLines_append_newline hl,
          filterMap_ofLine?_cons, ih hfeeds (List.forall_mem_append.mp h).2, hline,
          List.append_assoc]
      · -- Between line feeds, the return is the last character of the line.
        have hreturn : l ++ (['\r', '\n'] ++ t) = (l ++ ['\r']) ++ '\n' :: t := by simp
        rw [hreturn, parseAll_append_newline] at h ⊢
        obtain ⟨hfirst, hrest⟩ := List.forall_mem_append.mp h
        have hblank : ∀ c ∈ ['\r'], isBlank c := List.all_eq_true.mp (by decide)
        have hboth : (l ++ ['\r']) ++ '\n' :: t ++ '\n' :: rest
            = l ++ '\r' :: '\n' :: (t ++ '\n' :: rest) := by simp
        rw [hboth, Text.splitLines_append_return hl, filterMap_ofLine?_cons, ih hfeeds hrest,
          parseAll_append_blank hblank hfirst, hline, List.append_assoc]

end Diagnostic

/-- A line whose diagnostic is not of the file goes, and so does that diagnostic. -/
lemma parseAll_own_line (file : Text) {l : Text} (hl : '\n' ∉ l) :
    (if isForeign file l then [] else Diagnostic.parseAll l)
      = (Diagnostic.ofLine? l).toList.filter fun d => FileKey.find? [file] d.file = some file := by
  rw [isForeign_eq file hl, Diagnostic.parseAll_line hl]
  cases Diagnostic.ofLine? l with
  | none => simp
  | some d => cases hfits : FileKey.fits file d.file <;> simp [FileKey.find?_singleton, hfits]

/-- **The diagnostics that are left of an output** are those in its lines that are of the file. -/
lemma parseAll_ownDiagnostics (output file : Text) :
    Diagnostic.parseAll (ownDiagnostics output file)
      = (output.splitLines.filterMap Diagnostic.ofLine?).filter
          fun d => FileKey.find? [file] d.file = some file := by
  rw [ownDiagnostics, Diagnostic.parseAll_joinWith]
  have hlines := output.no_end_of_mem_splitLines
  generalize output.splitLines = lines at hlines ⊢
  induction lines with
  | nil => rfl
  | cons l lines ih =>
      obtain ⟨hl, hlines⟩ := List.forall_mem_cons.mp hlines
      have hfirst : ((l :: lines).filter fun l => !isForeign file l).flatMap Diagnostic.parseAll
          = (if isForeign file l then [] else Diagnostic.parseAll l) ++
            (lines.filter fun l => !isForeign file l).flatMap Diagnostic.parseAll := by
        cases hforeign : isForeign file l <;> simp [hforeign]
      rw [hfirst, parseAll_own_line file (Text.newline_not_mem_of_no_end hl), ih hlines,
        Diagnostic.filterMap_ofLine?_cons, List.filter_append]

/-- **A text that keeps its diagnostics together**, however it is cut into lines. -/
structure Text.Orderly (t : Text) : Prop where
  feeds : t.OnlyFeeds
  solid : ∀ d ∈ Diagnostic.parseAll t, d.Solid

instance (t : Text) : Decidable t.Orderly :=
  decidable_of_iff (t.OnlyFeeds ∧ ∀ d ∈ Diagnostic.parseAll t, d.Solid)
    ⟨fun ⟨h₁, h₂⟩ => ⟨h₁, h₂⟩, fun h => ⟨h.feeds, h.solid⟩⟩

/-- **The lines of an invocation's output report what both of its parts report.** -/
lemma CheckOutput.filterMap_splitLines (o : CheckOutput) (herr : o.err.Orderly)
    (hout : o.out.Orderly) : o.diagnosticText.splitLines.filterMap Diagnostic.ofLine?
      = Diagnostic.parseAll o.err ++ Diagnostic.parseAll o.out := by
  have hlast : ∀ {t : Text}, t.Orderly →
      (Text.splitLines (t ++ ['\n'])).filterMap Diagnostic.ofLine? = Diagnostic.parseAll t := by
    intro t ht
    rw [Diagnostic.filterMap_splitLines_append [] ht.feeds ht.solid]
    simp [Text.splitLines, Text.lineSegments, Text.lineSegmentsFrom]
  have hrest : (Text.splitLines (if o.out.isBlankText then [] else o.out ++ ['\n'])).filterMap
      Diagnostic.ofLine? = Diagnostic.parseAll o.out := by
    split
    · next hblank =>
      rw [Diagnostic.parseAll_of_blank (List.all_eq_true.mp hblank)]
      rfl
    · exact hlast hout
  rw [diagnosticText]
  split
  · next hempty =>
    rw [List.isEmpty_iff.mp hempty, List.nil_append, hrest]
    rfl
  · rw [List.append_assoc, List.singleton_append,
      Diagnostic.filterMap_splitLines_append _ herr.feeds herr.solid, hrest]

/-! ## Several checks -/

namespace Reply

/-- What the compiler reports in a reply: first in its error output, then in the other. -/
def reports : Reply → List Diagnostic
  | finished _ out err => Diagnostic.parseAll err ++ Diagnostic.parseAll out
  | _ => []

/-- The compiler has been run, and its outputs keep their diagnostics together. -/
def Orderly : Reply → Prop
  | finished _ out err => err.Orderly ∧ out.Orderly
  | _ => False

instance : (reply : Reply) → Decidable reply.Orderly
  | finished _ out err => inferInstanceAs (Decidable (err.Orderly ∧ out.Orderly))
  | missing => inferInstanceAs (Decidable False)
  | denied => inferInstanceAs (Decidable False)
  | timedOut => inferInstanceAs (Decidable False)

variable {reply : Reply}

lemma Orderly.exists_finished (h : reply.Orderly) : ∃ exitCode out err,
    reply = .finished exitCode out err ∧ err.Orderly ∧ out.Orderly := by
  cases reply with
  | finished exitCode out err => exact ⟨exitCode, out, err, rfl, h⟩
  | missing => exact h.elim
  | denied => exact h.elim
  | timedOut => exact h.elim

lemma Orderly.solid (h : reply.Orderly) : ∀ d ∈ reply.reports, d.Solid := by
  obtain ⟨exitCode, out, err, rfl, herr, hout⟩ := h.exists_finished
  exact List.forall_mem_append.mpr ⟨herr.solid, hout.solid⟩

end Reply

/-- The next replies of the compiler, which is silent when there are no more. -/
def Workbench.upcoming (bench : Workbench) (n : Nat) : List Reply :=
  (bench.replies ++ List.replicate n Reply.silent).take n

namespace Compiler

lemma upcoming_succ (bench : Workbench) (n : Nat) :
    bench.upcoming (n + 1) = (takeReply bench).1 :: (takeReply bench).2.upcoming n := by
  cases hreplies : bench.replies with
  | nil => simp [Workbench.upcoming, takeReply, hreplies, List.replicate_succ]
  | cons reply replies =>
      have hmin : min (n - replies.length) (n + 1) = min (n - replies.length) n := by omega
      simp [Workbench.upcoming, takeReply, hreplies, List.take_append, List.take_replicate, hmin]

lemma invoke_on (c : Compiler) (file : Text) (bench : Workbench) : ∃ after,
    (c.invoke file).on bench = (.ok (takeReply bench).1, after) ∧
      after.replies = (takeReply bench).2.replies := by
  obtain ⟨tree, replies, invocations, shadows, transcript⟩ := bench
  cases replies <;> exact ⟨_, rfl, rfl⟩

/-- **One check** uses up one reply, and leaves what is reported there on the file. -/
lemma diagnosePlain_on (c : Compiler) (file : Text) {bench : Workbench}
    (h : (takeReply bench).1.Orderly) : ∃ output after,
      (c.diagnosePlain file).on bench = (.ok output, after) ∧
        after.replies = (takeReply bench).2.replies ∧
          Diagnostic.parseAll output = (takeReply bench).1.reports.filter
            fun d => FileKey.find? [file] d.file = some file := by
  obtain ⟨after, hinvoke, hreplies⟩ := invoke_on c file bench
  obtain ⟨exitCode, out, err, hreply, herr, hout⟩ := h.exists_finished
  rw [hreply] at hinvoke
  let o : CheckOutput := { file, exitCode, out, err }
  have hcheck : (c.check file).on bench = (.ok o, after) := Run.on_bind_ok hinvoke _
  refine ⟨ownDiagnostics o.diagnosticText file, after, Run.on_bind_ok hcheck _, hreplies, ?_⟩
  rw [parseAll_ownDiagnostics, o.filterMap_splitLines herr hout, hreply, Reply.reports]

/-- **Check after check.** -/
lemma mapM_diagnosePlain_on (c : Compiler) : ∀ (files : List Text) {bench : Workbench},
    (∀ reply ∈ bench.upcoming files.length, reply.Orderly) → ∃ outputs after,
      (files.mapM c.diagnosePlain).on bench = (.ok outputs, after) ∧
        outputs.flatMap Diagnostic.parseAll = (files.zip (bench.upcoming files.length)).flatMap
          fun (file, reply) => reply.reports.filter
            fun d => FileKey.find? [file] d.file = some file
  | [], bench, _ => ⟨[], bench, rfl, rfl⟩
  | file :: files, bench, h => by
      rw [List.length_cons, upcoming_succ, List.forall_mem_cons] at h
      obtain ⟨output, after, hon, hreplies, hparse⟩ := c.diagnosePlain_on file h.1
      have hupcoming : after.upcoming files.length = (takeReply bench).2.upcoming files.length := by
        rw [Workbench.upcoming, hreplies, ← Workbench.upcoming]
      obtain ⟨outputs, last, hrest, hall⟩ :=
        mapM_diagnosePlain_on c files (hupcoming.symm ▸ h.2)
      refine ⟨output :: outputs, last, ?_, ?_⟩
      · rw [List.mapM_cons, Run.on_bind_ok hon, Run.on_bind_ok hrest]
        rfl
      · rw [List.length_cons, upcoming_succ, List.zip_cons_cons, List.flatMap_cons,
          List.flatMap_cons, hparse, hall, hupcoming]

/-- **A check of several files reports on each of them exactly what the compiler reports on it**, in
the order of the files: first what stands in the error output, then what stands in the other. -/
theorem diagnose_reports (c : Compiler) (files : List Text) (bench : Workbench)
    (h : ∀ reply ∈ bench.upcoming files.length, reply.Orderly) :
    ∃ output, ((c.diagnose files false).on bench).1 = .ok output ∧
      Diagnostic.parse output = (files.zip (bench.upcoming files.length)).flatMap
        fun (file, reply) => reply.reports.filter
          fun d => FileKey.find? [file] d.file = some file := by
  obtain ⟨outputs, after, hon, hall⟩ := c.mapM_diagnosePlain_on files h
  have hdiagnose : (c.diagnose files false).on bench = (.ok (joinOutputs outputs), after) :=
    Run.on_bind_ok hon _
  refine ⟨joinOutputs outputs, congrArg Prod.fst hdiagnose, ?_⟩
  rw [← hall]
  refine Diagnostic.parse_joinOutputs ?_
  rw [hall]
  intro d hd
  obtain ⟨⟨file, reply⟩, hreply, hd⟩ := List.mem_flatMap.mp hd
  exact (h reply (List.of_mem_zip hreply).2).solid d (List.mem_filter.mp hd).1

/-- Three files and two replies.  The first one has returns, blanks before a path, a diagnostic of
another file and a blank output; the second one has diagnostics of one file in both outputs. -/
theorem diagnose_reports_returns :
    let c : Compiler := { program := "moc", directory := .ofText "." }
    let files : List Text := ["a.mo", "b.mo", "c.mo"]
    let replies : List Reply := [
      .finished 1 " \n " ("banner\r\n  a.mo:1.1-1.2: warning [M0223], x\r\n" ++
        "b.mo:2.1-2.2: type error [M0001], y\r\n").toList,
      .finished 0 "./b.mo:3.1-3.2: Warning [m0236], z".toList
        "/w/b.mo:2.1-2.2: type error [M0001], y\n\n".toList]
    let bench : Workbench := { replies }
    (∀ reply ∈ bench.upcoming files.length, reply.Orderly) ∧
      ∃ output, ((c.diagnose files false).on bench).1 = .ok output ∧
        Diagnostic.parse output = [
          ⟨"a.mo", .ofCoords 0 0 0 1, "M0223", "x", .warning⟩,
          ⟨"/w/b.mo", .ofCoords 1 0 1 1, "M0001", "y", .error⟩,
          ⟨"./b.mo", .ofCoords 2 0 2 1, "M0236", "z", .warning⟩] := by
  intro c files replies bench
  have horderly : ∀ reply ∈ bench.upcoming files.length, reply.Orderly := by decide +kernel
  obtain ⟨output, hrun, hparse⟩ := diagnose_reports c files bench horderly
  exact ⟨horderly, output, hrun, hparse.trans (by decide +kernel)⟩

end Compiler

end Amend
