import Amend.Proofs.ReportLines
import Mathlib.Data.List.ReduceOption

/-!
# The grammar of compiler output

Which lines of an output report something, and what.  The reader of a line looks for its fields one
after the other and gives up at the first that is not there.  The grammar is said without it:

* `DiagnosticLine.Form` is the form of a line, and `DiagnosticLine.IsCoordinate` what its four
  numbers have to be.
* `DiagnosticLine.Reports` is what the fields of a line mean.
* `Yields` joins the two: a line of that form yields what its fields mean, and any other yields
  nothing.

What is read from a line was written so (`DiagnosticLine.of_read?`), and what is written is read
back (`DiagnosticLine.read?_write`).  The reader is a function, so no line has two readings
(`DiagnosticLine.read?_eq_some_iff`, `DiagnosticLine.write_injective`).

`Diagnostic.render` prints diagnostics one below the other, and they are read back as they were.
-/

namespace Amend

/-! ## Fields that have been read -/

lemma of_takeSome? {p : Char → Bool} {t front rest : Text}
    (h : takeSome? p t = some (front, rest)) :
    (front ≠ [] ∧ ∀ c ∈ front, p c = true) ∧ front ++ rest = t := by
  rw [takeSome?] at h
  split at h
  · cases h
  · next c cs htake =>
    cases h
    rw [← htake]
    refine ⟨⟨by rw [htake]; exact List.cons_ne_nil _ _, fun d hd => ?_⟩,
      List.takeWhile_append_dropWhile⟩
    exact List.mem_takeWhile_imp hd

namespace DiagnosticLine

variable {l l' : DiagnosticLine} {t : Text}

lemma of_takeKind? {kind rest : Text} (h : takeKind? t = some (kind, rest)) :
    (Spells errorKind kind ∨ Spells warningKind kind) ∧ kind ++ rest = t := by
  rw [takeKind?, Option.orElse_eq_orElse, Option.orElse_eq_or, Option.or_eq_some_iff] at h
  rcases h with herror | ⟨-, hwarning⟩
  · obtain ⟨hspells, heq⟩ := of_takeIgnoringCase? herror
    exact ⟨.inl hspells, heq⟩
  · obtain ⟨hspells, heq⟩ := of_takeIgnoringCase? hwarning
    exact ⟨.inr hspells, heq⟩

lemma of_takeCode? {code rest : Text} (h : takeCode? t = some (code, rest)) :
    IsCode code ∧ code ++ rest = t := by
  unfold takeCode? at h
  split at h
  · cases h
  · next m cs =>
    split at h
    · next hm =>
      obtain ⟨⟨digits, rest'⟩, hdigits, heq⟩ := Option.map_eq_some_iff.mp h
      cases heq
      obtain ⟨hnumeral, rfl⟩ := of_takeSome? hdigits
      exact ⟨⟨m, digits, rfl, by simpa using hm, hnumeral⟩, rfl⟩
    · cases h

/-- **What is read from a line was written so.** -/
lemma of_read? (h : read? t = some l) : l.Form IsNumeral ∧ l.write = t := by
  obtain ⟨⟨file, t₁⟩, hfile, h⟩ := Option.bind_eq_some_iff.mp h
  obtain ⟨t₂, hcolon, h⟩ := Option.bind_eq_some_iff.mp h
  obtain ⟨⟨startLine, t₃⟩, hstartLine, h⟩ := Option.bind_eq_some_iff.mp h
  obtain ⟨t₄, hstartDot, h⟩ := Option.bind_eq_some_iff.mp h
  obtain ⟨⟨startChar, t₅⟩, hstartChar, h⟩ := Option.bind_eq_some_iff.mp h
  obtain ⟨t₆, hdash, h⟩ := Option.bind_eq_some_iff.mp h
  obtain ⟨⟨stopLine, t₇⟩, hstopLine, h⟩ := Option.bind_eq_some_iff.mp h
  obtain ⟨t₈, hstopDot, h⟩ := Option.bind_eq_some_iff.mp h
  obtain ⟨⟨stopChar, t₉⟩, hstopChar, h⟩ := Option.bind_eq_some_iff.mp h
  obtain ⟨t₁₀, hcolon', h⟩ := Option.bind_eq_some_iff.mp h
  obtain ⟨⟨kind, t₁₁⟩, hkind, h⟩ := Option.bind_eq_some_iff.mp h
  obtain ⟨t₁₂, hopen, h⟩ := Option.bind_eq_some_iff.mp h
  obtain ⟨⟨code, t₁₃⟩, hcode, h⟩ := Option.bind_eq_some_iff.mp h
  obtain ⟨message, hclose, h⟩ := Option.bind_eq_some_iff.mp h
  split at h
  · cases h
  · next hmessage =>
    cases h
    obtain ⟨⟨file_ne, file_colon⟩, rfl⟩ := of_takeSome? hfile
    obtain rfl := List.append_eq_of_isPrefixOf?_eq_some hcolon
    obtain ⟨startLine_is, rfl⟩ := of_takeSome? hstartLine
    obtain rfl := List.append_eq_of_isPrefixOf?_eq_some hstartDot
    obtain ⟨startChar_is, rfl⟩ := of_takeSome? hstartChar
    obtain rfl := List.append_eq_of_isPrefixOf?_eq_some hdash
    obtain ⟨stopLine_is, rfl⟩ := of_takeSome? hstopLine
    obtain rfl := List.append_eq_of_isPrefixOf?_eq_some hstopDot
    obtain ⟨stopChar_is, rfl⟩ := of_takeSome? hstopChar
    obtain rfl := List.append_eq_of_isPrefixOf?_eq_some hcolon'
    obtain ⟨kind_is, rfl⟩ := of_takeKind? hkind
    obtain rfl := List.append_eq_of_isPrefixOf?_eq_some hopen
    obtain ⟨code_is, rfl⟩ := of_takeCode? hcode
    obtain rfl := List.append_eq_of_isPrefixOf?_eq_some hclose
    refine ⟨⟨file_ne, fun hmem => ?_, startLine_is, startChar_is, stopLine_is, stopChar_is, kind_is,
      code_is, fun hnil => hmessage (List.isEmpty_iff.mpr hnil)⟩, write_eq _⟩
    exact of_decide_eq_true (file_colon ':' hmem) rfl

lemma read?_eq_some_iff : read? t = some l ↔ l.Form IsNumeral ∧ l.write = t := by
  refine ⟨of_read?, ?_⟩
  rintro ⟨hform, rfl⟩
  exact read?_write hform

/-- **A line has one reading.** -/
lemma write_injective (h : l.Form IsNumeral) (h' : l'.Form IsNumeral)
    (heq : l.write = l'.write) : l = l' := by
  have hread := read?_write h
  rw [heq, read?_write h'] at hread
  exact (Option.some.inj hread).symm

/-! ## What the fields mean -/

/-- The text is the number of a line or a character, counted from one: digits, not too many of them,
and not zero. -/
def IsCoordinate (t : Text) : Prop :=
  IsNumeral t ∧ t.length ≤ Number.maxDigits ∧ 1 ≤ t.decimalValue

/-- **What a line reports.**  The blanks around the path do not count, coordinates are counted from
zero, the code is in capitals, and returns at the end of the message are dropped. -/
structure Reports (l : DiagnosticLine) (d : Diagnostic) : Prop where
  file : d.file = l.file.strip
  range : d.range = .ofCoords (l.startLine.decimalValue - 1) (l.startChar.decimalValue - 1)
    (l.stopLine.decimalValue - 1) (l.stopChar.decimalValue - 1)
  code : d.code = l.code.upperAscii
  message : d.message = l.message.dropEndReturns
  severity : d.severity = .error ↔ Spells errorKind l.kind

lemma coordinate?_eq_some_iff {i : Int} : coordinate? t = some i ↔
    (t.length ≤ Number.maxDigits ∧ 1 ≤ t.decimalValue) ∧ (t.decimalValue : Int) - 1 = i := by
  rw [coordinate?]
  split
  · next h =>
    simp only [Bool.or_eq_true, decide_eq_true_eq] at h
    simp only [reduceCtorEq, false_iff]
    omega
  · next h =>
    simp only [Bool.or_eq_true, decide_eq_true_eq, not_or] at h
    rw [Option.some.injEq]
    omega

lemma Form.mono {number number' : Text → Prop} (h : l.Form number)
    (hnumber : ∀ t, number t → number' t) : l.Form number' :=
  { h with
    startLine := hnumber _ h.startLine
    startChar := hnumber _ h.startChar
    stopLine := hnumber _ h.stopLine
    stopChar := hnumber _ h.stopChar }

lemma Form.isNumeral (h : l.Form IsCoordinate) : l.Form IsNumeral := h.mono fun _ => And.left

/-- The severity is told by the kind. -/
lemma Form.severity_eq_error_iff {number : Text → Prop} (h : l.Form number) :
    l.severity = .error ↔ Spells errorKind l.kind := by
  have hsome : (takeIgnoringCase? errorKind l.kind).isSome ↔ Spells errorKind l.kind := by
    constructor
    · intro hsome
      obtain ⟨⟨front, rest⟩, hfront⟩ := Option.isSome_iff_exists.mp hsome
      obtain ⟨hspells, heq⟩ := of_takeIgnoringCase? hfront
      refine h.kind.resolve_right fun hwarning => ?_
      exact not_spells_both hspells hwarning (heq.trans (List.append_nil _).symm)
    · intro hspells
      have htake := takeIgnoringCase?_append hspells []
      rw [List.append_nil] at htake
      rw [htake]
      rfl
  rw [severity, ← hsome]
  split <;> simp_all

/-- Every line of the form reports something. -/
lemma Form.exists_reports {number : Text → Prop} (h : l.Form number) : ∃ d, l.Reports d :=
  ⟨{ severity := l.severity, .. }, rfl, rfl, rfl, rfl, h.severity_eq_error_iff⟩

lemma Form.diagnostic?_eq_some_iff (h : l.Form IsNumeral) {d : Diagnostic} :
    l.diagnostic? = some d ↔ l.Form IsCoordinate ∧ l.Reports d := by
  have hseverity := h.severity_eq_error_iff
  simp only [diagnostic?, Option.bind_eq_bind, Option.bind_eq_some_iff, coordinate?_eq_some_iff,
    Option.some.injEq]
  constructor
  · rintro ⟨_, ⟨hstartLine, rfl⟩, _, ⟨hstartChar, rfl⟩, _, ⟨hstopLine, rfl⟩, _,
      ⟨hstopChar, rfl⟩, rfl⟩
    have hform : l.Form IsCoordinate :=
      { h with
        startLine := ⟨h.startLine, hstartLine⟩
        startChar := ⟨h.startChar, hstartChar⟩
        stopLine := ⟨h.stopLine, hstopLine⟩
        stopChar := ⟨h.stopChar, hstopChar⟩ }
    exact ⟨hform, rfl, rfl, rfl, rfl, hseverity⟩
  · rintro ⟨hform, hreports⟩
    refine ⟨_, ⟨hform.startLine.2, rfl⟩, _, ⟨hform.startChar.2, rfl⟩, _, ⟨hform.stopLine.2, rfl⟩, _,
      ⟨hform.stopChar.2, rfl⟩, ?_⟩
    have hsame : l.severity = d.severity := by
      have hiff := hseverity.trans hreports.severity.symm
      cases hl : l.severity <;> cases hd : d.severity <;> simp_all
    obtain ⟨file, range, code, message, severity⟩ := d
    obtain ⟨rfl, rfl, rfl, rfl, -⟩ := hreports
    rw [hsame]

/-- Digits have no case. -/
lemma upperAscii_of_isNumeral (h : IsNumeral t) : t.upperAscii = t := by
  refine (List.map_congr_left fun c hc => ?_).trans (List.map_id t)
  refine dif_neg fun hletter => ?_
  have hrange : 97 ≤ c.toNat ∧ c.toNat ≤ 122 := hletter
  have hdigit : (digitValue? c).isSome := h.2 c hc
  rw [digitValue?, Option.isSome_map, List.find?_isSome] at hdigit
  obtain ⟨z, hz, hnear⟩ := hdigit
  have hfar : ∀ z ∈ digitZeros, z + 10 ≤ 97 ∨ 122 < z := by decide
  have hz := hfar z hz
  rw [Bool.and_eq_true, decide_eq_true_eq, decide_eq_true_eq] at hnear
  omega

end DiagnosticLine

open DiagnosticLine (IsNumeral IsCoordinate)

/-- The word that announces a severity. -/
def Severity.kind : Severity → Text
  | .error => errorKind
  | .warning => warningKind

lemma Severity.kind_cases (s : Severity) : s.kind = errorKind ∨ s.kind = warningKind := by
  cases s
  · exact .inl rfl
  · exact .inr rfl

/-! ## Lines -/

/-- A line has a reading as a diagnostic. -/
def ReadsAs (line : Text) (l : DiagnosticLine) : Prop := l.Form IsCoordinate ∧ l.write = line

/-- **What a line yields**: nothing, if it has no reading; otherwise the diagnostic of its only
one. -/
def Yields (line : Text) : Option Diagnostic → Prop
  | none => ∀ l, ¬ ReadsAs line l
  | some d => ∃ l, ReadsAs line l ∧ (∀ l', ReadsAs line l' → l' = l) ∧ l.Reports d

namespace Diagnostic

lemma ofLine?_eq_some_iff {line : Text} {d : Diagnostic} :
    ofLine? line = some d ↔ ∃ l, ReadsAs line l ∧ l.Reports d := by
  rw [ofLine?, Option.bind_eq_some_iff]
  constructor
  · rintro ⟨l, hread, hd⟩
    obtain ⟨hform, hwrite⟩ := DiagnosticLine.of_read? hread
    obtain ⟨hform', hreports⟩ := hform.diagnostic?_eq_some_iff.mp hd
    exact ⟨l, ⟨hform', hwrite⟩, hreports⟩
  · rintro ⟨l, ⟨hform, rfl⟩, hreports⟩
    exact ⟨l, DiagnosticLine.read?_write hform.isNumeral,
      hform.isNumeral.diagnostic?_eq_some_iff.mpr ⟨hform, hreports⟩⟩

/-- **A line gives what it yields.** -/
lemma yields_ofLine? (line : Text) : Yields line (ofLine? line) := by
  cases hline : ofLine? line with
  | some d =>
      obtain ⟨l, hreads, hreports⟩ := ofLine?_eq_some_iff.mp hline
      refine ⟨l, hreads, fun l' hreads' => ?_, hreports⟩
      exact DiagnosticLine.write_injective hreads'.1.isNumeral hreads.1.isNumeral
        (hreads'.2.trans hreads.2.symm)
  | none =>
      intro l hreads
      obtain ⟨d, hreports⟩ := hreads.1.exists_reports
      rw [ofLine?_eq_some_iff.mpr ⟨l, hreads, hreports⟩] at hline
      cases hline

/-! ## Printing -/

/-- The line that reports a diagnostic. -/
def line (d : Diagnostic) : DiagnosticLine :=
  .ofRange d.file d.range d.severity.kind d.code d.message

/-- The lines that report some diagnostics, one below the other. -/
def render (ds : List Diagnostic) : Text := Text.joinWith ['\n'] (ds.map fun d => d.line.write)

/-- **A diagnostic that can be printed.**  Its path and its message fit on a line and have nothing
at their ends that is dropped when they are read. -/
structure Printable (d : Diagnostic) : Prop where
  file : FileKey.Legible d.file
  start : d.range.start.Printable
  stop : d.range.stop.Printable
  code : ∃ digits, d.code = 'M' :: digits ∧ IsNumeral digits
  message_ne : d.message ≠ []
  message_newline : '\n' ∉ d.message
  message_returns : d.message.dropEndReturns = d.message

variable {d : Diagnostic}

lemma Printable.form (h : d.Printable) : d.line.Form IsNumeral := by
  obtain ⟨digits, hcode, hdigits⟩ := h.code
  exact DiagnosticLine.form_ofRange h.file.ne_nil h.file.no_colon d.severity.kind_cases hcode
    hdigits h.message_ne h.start h.stop

/-- **A printed diagnostic is read back.** -/
lemma Printable.ofLine?_line (h : d.Printable) : ofLine? d.line.write = some d := by
  obtain ⟨digits, hcode, hdigits⟩ := h.code
  have hread := ofLine?_ofRange h.file.ne_nil h.file.no_colon d.severity.kind_cases hcode hdigits
    h.message_ne h.start h.stop
  have hseverity : d.line.severity = d.severity := by
    rw [DiagnosticLine.severity, line, DiagnosticLine.ofRange]
    cases d.severity <;> rfl
  have hupper : d.code.upperAscii = d.code := by
    rw [hcode]
    exact congrArg _ (DiagnosticLine.upperAscii_of_isNumeral hdigits)
  rw [line, hread, h.file.strip_eq, hupper, h.message_returns]
  exact congrArg _ (congrArg _ hseverity)

lemma Printable.newline_not_mem_line (h : d.Printable) : '\n' ∉ d.line.write := by
  have hnumeral : ∀ {t : Text}, IsNumeral t → '\n' ∉ t :=
    fun ht hmem => absurd (ht.2 _ hmem) (by decide)
  have hkind : '\n' ∉ d.severity.kind := by cases d.severity <;> decide
  obtain ⟨digits, hcode, hdigits⟩ := h.code
  have hcode : '\n' ∉ d.code := by
    rw [hcode, List.mem_cons, not_or]
    exact ⟨by decide, hnumeral hdigits⟩
  have hform := h.form
  rw [DiagnosticLine.write_eq]
  simp only [List.mem_append, List.mem_cons, not_or]
  refine ⟨h.file.no_newline, by decide, hnumeral hform.startLine, by decide,
    hnumeral hform.startChar, by decide, hnumeral hform.stopLine, by decide,
    hnumeral hform.stopChar, by decide, by decide, hkind, by decide, by decide, hcode, by decide,
    by decide, by decide, h.message_newline⟩

/-- **Printed diagnostics are read back.** -/
lemma parseAll_render {ds : List Diagnostic} (h : ∀ d ∈ ds, d.Printable) :
    parseAll (render ds) = ds := by
  have hread : (ds.map fun d => d.line.write).filterMap ofLine? = ds := by
    rw [List.filterMap_map]
    exact (List.filterMap_congr fun d hd => (h d hd).ofLine?_line).trans List.filterMap_some
  by_cases hnil : ds = []
  · subst hnil
    decide
  · have hlines : (render ds).lines = ds.map fun d => d.line.write := by
      refine List.splitOn_intercalate '\n' ?_ fun hmap => hnil (List.map_eq_nil_iff.mp hmap)
      intro l hl
      obtain ⟨d, hd, rfl⟩ := List.mem_map.mp hl
      exact (h d hd).newline_not_mem_line
    rw [parseAll, hlines, hread]

/-- **An output is read line by line, by the grammar of a line.**  It gives what its lines yield, in
their order, and the lines are what stands between line feeds.  Diagnostics that are printed one
below the other are therefore read back as they were. -/
theorem parse_grammar (output : Text) :
    (∃ found : List (Option Diagnostic), List.Forall₂ Yields (output.splitOn '\n') found ∧
        parse (some output) = found.reduceOption) ∧
      ∀ ds : List Diagnostic, (∀ d ∈ ds, d.Printable) → parse (some (render ds)) = ds := by
  refine ⟨⟨output.lines.map ofLine?, ?_, ?_⟩, fun ds hds => parseAll_render hds⟩
  · exact List.forall₂_map_right_iff.mpr (List.forall₂_same.mpr fun line _ => yields_ofLine? line)
  · rw [parse, parseAll, List.reduceOption, List.filterMap_map]
    rfl

/-- A message that looks like a diagnostic, and a code with digits of another script. -/
def printedDiagnostics : List Diagnostic := [
  { file := "a b.mo", range := .ofCoords 0 3 11 0, code := "M0223"
    message := "c.mo:1.1-1.2: warning [M0236], d", severity := .error },
  { file := "./c.mo", range := .ofCoords 4 0 4 0, code := "M٠٢", message := " x" }]

theorem parse_grammar_printed :
    render printedDiagnostics = ("a b.mo:1.4-12.1: type error [M0223], " ++
        "c.mo:1.1-1.2: warning [M0236], d\n" ++ "./c.mo:5.1-5.1: warning [M٠٢],  x").toList ∧
      parse (some (render printedDiagnostics)) = printedDiagnostics := by
  refine ⟨by decide +kernel, (parse_grammar []).2 printedDiagnostics fun d hd => ?_⟩
  have hcoordinate : ∀ n ∈ [0, 3, 4, 11], n + 1 < 10 ^ Number.maxDigits := by decide +kernel
  rcases List.mem_pair.mp hd with rfl | rfl
  · exact {
      file := by decide
      start := ⟨⟨0, rfl, hcoordinate 0 (by decide)⟩, 3, rfl, hcoordinate 3 (by decide)⟩
      stop := ⟨⟨11, rfl, hcoordinate 11 (by decide)⟩, 0, rfl, hcoordinate 0 (by decide)⟩
      code := ⟨['0', '2', '2', '3'], rfl, by decide, List.all_eq_true.mp (by decide)⟩
      message_ne := by decide
      message_newline := by decide
      message_returns := by decide }
  · exact {
      file := by decide
      start := ⟨⟨4, rfl, hcoordinate 4 (by decide)⟩, 0, rfl, hcoordinate 0 (by decide)⟩
      stop := ⟨⟨4, rfl, hcoordinate 4 (by decide)⟩, 0, rfl, hcoordinate 0 (by decide)⟩
      code := ⟨['٠', '٢'], rfl, by decide, List.all_eq_true.mp (by decide)⟩
      message_ne := by decide
      message_newline := by decide
      message_returns := by decide }

end Diagnostic

end Amend
