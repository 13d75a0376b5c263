import Amend.Proofs.CallRewrites
import Amend.Proofs.ReportLines

/-!
# Instantiated calls in dot notation

One call is reported twice, for an instantiation that is redundant and for a notation that could be
shorter: `callee<types>(receiver, rest)` should become `receiver.method(rest)`.  Both reports are
about the same text, so the second one is out of date when its turn comes.

* `Heading` is what a diagnostic line says besides its range and its code.  The lines are read as
  they were printed (`Heading.ofLine?_line`), as long as their numbers are not too long.
* `InstantiatedCall` is the call with the text around it, and its two ranges are the positions that
  are read off the text before their ends.
* `InstantiatedCall.without_inst`: the first phase leaves the callee and its arguments.
* `InstantiatedCall.treat_eq` is the treatment of the file, and `Session.fix_instantiated_call` the
  whole pass, from the lines of the compiler to the new text.
-/

namespace Amend

/-! ## Lines that report a range -/

/-- What a diagnostic line about the file `key` says besides its range and its code.  There may be
blanks around the path. -/
structure Heading (key : Text) where
  file : Text
  kind : Text
  message : Text
  file_ne : file ≠ []
  file_colon : ':' ∉ file
  file_strip : file.strip = key
  kind_known : kind = errorKind ∨ kind = warningKind
  message_ne : message ≠ []

namespace Heading

variable {key : Text}

/-- The fields of the line. -/
def fields (h : Heading key) (code : Text) (range : Range) : DiagnosticLine :=
  .ofRange h.file range h.kind code h.message

/-- The line as it is printed. -/
def line (h : Heading key) (code : Text) (range : Range) : Text := (h.fields code range).write

/-- The diagnostic that the line stands for. -/
def diagnostic (h : Heading key) (code : Text) (range : Range) : Diagnostic where
  file := key
  range := range
  code := code
  message := h.message.dropEndReturns
  severity := (h.fields code range).severity

lemma ofLine?_line (h : Heading key) {code digits : Text} (hcode : code = 'M' :: digits)
    (hdigits : DiagnosticLine.IsNumeral digits) (hupper : code.upperAscii = code) {range : Range}
    (hstart : range.start.Printable) (hstop : range.stop.Printable) :
    Diagnostic.ofLine? (h.line code range) = some (h.diagnostic code range) := by
  have hread := Diagnostic.ofLine?_ofRange h.file_ne h.file_colon h.kind_known hcode hdigits
    h.message_ne hstart hstop
  rw [hupper, h.file_strip] at hread
  exact hread

end Heading

namespace Text

lemma length_le_units : ∀ t : Text, t.length ≤ t.units
  | [] => Nat.le_refl _
  | c :: cs => by
      have ih := length_le_units cs
      have hc := unitsOf_pos c
      rw [units_cons, List.length_cons]
      omega

/-- The coordinates in a text are no larger than the text. -/
lemma printable_endPosition {t : Text} (h : t.units + 1 < 10 ^ Number.maxDigits) :
    t.endPosition.Printable := by
  refine ⟨⟨t.count '\n', rfl, ?_⟩, ⟨units (t.reverse.takeWhile (· ≠ '\n')), rfl, ?_⟩⟩
  · have hcount := List.count_le_length (a := '\n') (l := t)
    have hlength := length_le_units t
    omega
  · have hle := units_le_of_sublist (List.takeWhile_sublist (l := t.reverse) (· ≠ '\n'))
    rw [units_reverse] at hle
    omega

end Text

/-! ## The call -/

/-- **A call with an instantiation**, and the text around it. -/
structure InstantiatedCall where
  pre : Text
  callee : Text
  /-- What stands between the angle brackets. -/
  types : Text
  /-- What stands between the round brackets. -/
  body : Text
  post : Text
  callee_ne : callee ≠ []
  callee_path : ∀ c ∈ callee, Call.isPathChar c
  types_line : '\n' ∉ types
  body_closed : (Nesting.start.run body).isClosed

namespace InstantiatedCall

variable (c : InstantiatedCall)

/-- The instantiation. -/
def inst : Text := '<' :: c.types ++ ['>']

/-- The arguments in their brackets. -/
def bracket : Text := '(' :: c.body ++ [')']

/-- The text with the call. -/
def text : Text := c.pre ++ (c.callee ++ c.inst ++ c.bracket) ++ c.post

/-- The range of the instantiation. -/
def instRange : Range :=
  ⟨Text.endPosition (c.pre ++ c.callee), Text.endPosition (c.pre ++ c.callee ++ c.inst)⟩

/-- The range of the whole call. -/
def callRange : Range :=
  ⟨Text.endPosition c.pre, Text.endPosition (c.pre ++ (c.callee ++ c.inst ++ c.bracket))⟩

/-- The call without its instantiation. -/
def call : Call := ⟨c.callee, splitArguments c.body⟩

/-! ### Where it stands -/

lemma text_eq_append_inst : c.text = c.pre ++ c.callee ++ (c.inst ++ c.bracket ++ c.post) := by
  simp [text]

lemma text_eq_append_bracket : c.text = c.pre ++ c.callee ++ c.inst ++ (c.bracket ++ c.post) := by
  simp [text]

lemma text_eq_append_call :
    c.text = c.pre ++ (c.callee ++ c.inst ++ c.bracket ++ c.post) := by
  simp [text]

lemma newline_not_mem_inst : '\n' ∉ c.inst := by
  simp [inst, c.types_line]

lemma onLine_instRange : c.instRange.OnLine (.ofText c.text) := by
  have hshift : c.instRange.stop = c.instRange.start.shifted c.inst.units :=
    Text.endPosition_append c.newline_not_mem_inst _
  have hpos : 0 < Text.units c.inst := by
    have hlength := Text.length_le_units c.inst
    have hinst : 0 < c.inst.length := by simp [inst]
    omega
  refine { oneLine := ?_, nonempty := ?_, admits_start := ?_, admits_stop := ?_ }
  · rw [hshift]
    rfl
  · rw [hshift]
    simp only [Position.shifted]
    omega
  · rw [text_eq_append_inst]
    exact Snapshot.admits_endPosition_append _ _
  · rw [text_eq_append_bracket]
    exact Snapshot.admits_endPosition_append _ _

lemma offset_instRange_start :
    (Snapshot.ofText c.text).offset c.instRange.start = (c.pre ++ c.callee).length := by
  rw [text_eq_append_inst]
  exact Snapshot.offset_endPosition_append _ _

lemma offset_instRange_stop :
    (Snapshot.ofText c.text).offset c.instRange.stop = (c.pre ++ c.callee ++ c.inst).length := by
  rw [text_eq_append_bracket]
  exact Snapshot.offset_endPosition_append _ _

lemma offset_callRange_start :
    (Snapshot.ofText c.text).offset c.callRange.start = c.pre.length := by
  rw [text_eq_append_call]
  exact Snapshot.offset_endPosition_append _ _

lemma offset_callRange_stop : (Snapshot.ofText c.text).offset c.callRange.stop
    = (c.pre ++ (c.callee ++ c.inst ++ c.bracket)).length :=
  Snapshot.offset_endPosition_append _ _

/-! ### What is left of it -/

section

variable {c} {d : Diagnostic} (hd : d.range = c.instRange)

include hd

/-- Only the characters of the instantiation are deleted. -/
lemma deletedBy_inst (i : Nat) : deletedBy (.ofText c.text) [d.deletion] i
    = decide ((c.pre ++ c.callee).length ≤ i ∧ i < (c.pre ++ c.callee ++ c.inst).length) := by
  have hstart : d.deletion.startIn (.ofText c.text) = (c.pre ++ c.callee).length := by
    rw [← c.offset_instRange_start, ← hd]
    rfl
  have hstop : d.deletion.stopIn (.ofText c.text) = (c.pre ++ c.callee ++ c.inst).length := by
    rw [← c.offset_instRange_stop, ← hd]
    rfl
  rw [deletedBy_cons, Fix.covers, hstart, hstop]
  simp [deletedBy]

/-- What is left before, between and behind the ends of the call. -/
lemma without_inst :
    let gone := deletedBy (.ofText c.text) [d.deletion]
    Text.without gone 0 c.pre = c.pre ∧
      Text.without gone c.pre.length (c.callee ++ c.inst ++ c.bracket) = c.callee ++ c.bracket ∧
      Text.without gone (c.pre ++ (c.callee ++ c.inst ++ c.bracket)).length c.post = c.post := by
  intro gone
  have hgone : ∀ i, gone i = decide ((c.pre ++ c.callee).length ≤ i ∧
      i < (c.pre ++ c.callee ++ c.inst).length) := deletedBy_inst hd
  have hkept : ∀ (first : Nat) (t : Text), first + t.length ≤ (c.pre ++ c.callee).length ∨
      (c.pre ++ c.callee ++ c.inst).length ≤ first → Text.without gone first t = t := by
    intro first t h
    refine Text.without_eq_self _ _ fun j hj hlt => ?_
    rw [hgone, decide_eq_false_iff_not]
    omega
  have hcut : Text.without gone (c.pre.length + c.callee.length) c.inst = [] := by
    refine Text.without_eq_nil _ _ fun j hj hlt => ?_
    rw [hgone, decide_eq_true_eq]
    simp only [List.length_append]
    omega
  refine ⟨hkept 0 c.pre ?_, ?_, hkept _ c.post ?_⟩
  · simp only [List.length_append]
    omega
  · rw [Text.without_append, Text.without_append, hcut, hkept _ c.callee, hkept _ c.bracket,
      List.append_nil]
    · simp only [List.length_append]
      omega
    · simp only [List.length_append]
      omega
  · simp only [List.length_append]
    omega

end

/-- The new text has lost the angle bracket of the instantiation. -/
lemma turned_ne_text {receiver : Text} {rest : List Text} (message : Text)
    (hargs : splitArguments c.body = receiver :: rest) :
    c.pre ++ Rule.dotForm receiver (Rule.method message c.call) rest ++ c.post ≠ c.text := by
  intro heq
  have hmethod : '<' ∉ Rule.method message c.call := fun hmem =>
    absurd (Rule.isPathChar_of_mem_method message c.callee_path _ hmem) (by decide)
  have hnew := Rule.count_dotForm hmethod (by decide) receiver rest
  have hold := count_splitArguments_le '<' c.body
  have hseparator : List.count '<' (", " : Text) = 0 := by decide
  rw [hseparator, Nat.mul_zero] at hnew
  rw [hargs, List.map_cons, List.sum_cons] at hold
  have hcount := congrArg (List.count '<') heq
  simp only [text, inst, bracket, List.count_append, List.count_cons, List.cons_append] at hcount
  simp at hcount
  omega

end InstantiatedCall

/-! ## The pass -/

/-- The diagnostics of an output of which all but two lines report nothing. -/
lemma Diagnostic.parse_of_lines {output : Text} {others : List Text} {line line' : Text}
    {d d' : Diagnostic} (hlines : output.lines.Perm (line :: line' :: others))
    (hline : ofLine? line = some d) (hline' : ofLine? line' = some d')
    (hothers : ∀ l ∈ others, ofLine? l = none) : (parse (some output)).Perm [d, d'] := by
  have hnone : others.filterMap ofLine? = [] := List.filterMap_eq_nil_iff.mpr hothers
  have hperm := hlines.filterMap ofLine?
  rwa [List.filterMap_cons_some hline, List.filterMap_cons_some hline', hnone] at hperm

namespace InstantiatedCall

variable (c : InstantiatedCall) (hsize : Text.units c.text + 1 < 10 ^ Number.maxDigits)

include hsize

lemma printable_of_append {a b : Text} (h : c.text = a ++ b) : a.endPosition.Printable := by
  refine Text.printable_endPosition ?_
  rw [h, Text.units_append] at hsize
  omega

/-- Both lines are read. -/
lemma ofLine?_lines {key : Text} (inst dot : Heading key) :
    Diagnostic.ofLine? (inst.line "M0223" c.instRange)
        = some (inst.diagnostic "M0223" c.instRange) ∧
      Diagnostic.ofLine? (dot.line "M0236" c.callRange)
        = some (dot.diagnostic "M0236" c.callRange) := by
  have hprintable := fun {a b : Text} (h : c.text = a ++ b) => c.printable_of_append hsize h
  have hnumeral : DiagnosticLine.IsNumeral ['0', '2', '2', '3'] ∧
      DiagnosticLine.IsNumeral ['0', '2', '3', '6'] :=
    ⟨⟨by decide, List.all_eq_true.mp (by decide)⟩, ⟨by decide, List.all_eq_true.mp (by decide)⟩⟩
  exact ⟨inst.ofLine?_line rfl hnumeral.1 (by decide) (hprintable c.text_eq_append_inst)
      (hprintable c.text_eq_append_bracket),
    dot.ofLine?_line rfl hnumeral.2 (by decide) (hprintable c.text_eq_append_call)
      (hprintable rfl)⟩

end InstantiatedCall

/-- The treatment of the text for the two diagnostics. -/
lemma InstantiatedCall.treat_eq (c : InstantiatedCall) {own : List Diagnostic}
    {inst dot : Diagnostic} (hown : own.Perm [dot, inst])
    (hinst : inst.code = "M0223" ∧ inst.range = c.instRange)
    (hdot : dot.code = "M0236" ∧ dot.range = c.callRange)
    {receiver : Text} {rest : List Text} (hargs : splitArguments c.body = receiver :: rest) :
    (treat .standard own c.text).two.content
        = c.pre ++ Rule.dotForm receiver (Rule.method dot.message c.call) rest ++ c.post ∧
      (treat .standard own c.text).codes = [("M0223" : Text), ("M0236" : Text)] := by
  obtain ⟨hfirst, hsecond⟩ := filter_codes_of_perm hown hdot.1 (by simpa using hinst.1)
  have hline : ∀ d ∈ [inst], d.range.OnLine (.ofText c.text) := by
    intro d hd
    rw [List.mem_singleton.mp hd, hinst.2]
    exact c.onLine_instRange
  obtain ⟨hpre, hmid, hpost⟩ := without_inst hinst.2
  have hstart : (Snapshot.ofText c.text).Admits dot.range.start := by
    rw [hdot.2, c.text_eq_append_call]
    exact Snapshot.admits_endPosition_append _ _
  have hstop : (Snapshot.ofText c.text).Admits dot.range.stop := by
    rw [hdot.2]
    exact Snapshot.admits_endPosition_append _ _
  have htake : c.text.take c.pre.length = c.pre := by rw [c.text_eq_append_call, List.take_left]
  have hslice : c.text.slice c.pre.length (c.pre ++ (c.callee ++ c.inst ++ c.bracket)).length
      = c.callee ++ c.inst ++ c.bracket := by
    rw [Text.slice, text, List.take_left, List.drop_left]
  have hdrop : c.text.drop (c.pre ++ (c.callee ++ c.inst ++ c.bracket)).length = c.post := by
    rw [text, List.drop_left]
  have hcall : Call.parse? (c.callee ++ c.bracket) = some c.call := by
    have hparse := Call.parse?_call c.callee_ne c.callee_path c.body_closed
    rwa [List.append_assoc] at hparse
  have hacross := @treat_call_across _ _ _ hfirst hline (List.pairwise_singleton _ _) _ hsecond
    hdot.1 c.call receiver rest hstart hstop
  simp only [hdot.2, c.offset_callRange_start, c.offset_callRange_stop, List.map_singleton, htake,
    hslice, hdrop, hpre, hmid, hpost] at hacross
  exact hacross hcall hargs

/-- **An instantiated call is written in dot notation.**  The two lines may come in either order and
among others that report nothing, and the call may stand anywhere in its file.  The text is only
bounded by the number of digits that a coordinate may have. -/
theorem Session.fix_instantiated_call (session : Session) (hreg : session.registry = .standard)
    (files : Table Text Text) (key : Text) (c : InstantiatedCall)
    (htext : files.get? key = some c.text)
    (hsize : Text.units c.text + 1 < 10 ^ Number.maxDigits)
    (receiver : Text) (rest : List Text) (hargs : splitArguments c.body = receiver :: rest)
    (inst dot : Heading key) (output : Text) (others : List Text)
    (hlines : output.lines.Perm
      (inst.line "M0223" c.instRange :: dot.line "M0236" c.callRange :: others))
    (hothers : ∀ line ∈ others, Diagnostic.ofLine? line = none) :
    (session.fix files output).2.1 = some {
      files := .ofList [(key, c.pre
        ++ Rule.dotForm receiver (Rule.method dot.message c.call) rest ++ c.post)]
      counts := .ofList [("M0223", 1), ("M0236", 1)] } := by
  obtain ⟨hinst, hdot⟩ := c.ofLine?_lines hsize inst dot
  have hparsed := (Diagnostic.parse_of_lines hlines hinst hdot hothers).trans (.swap _ _ _)
  have hfile : ∀ d ∈ Diagnostic.parse (some output), d.file = key := by
    intro d hd
    rcases List.mem_pair.mp (hparsed.mem_iff.mp hd) with rfl | rfl <;> rfl
  have hne : Diagnostic.parse (some output) ≠ [] := fun hnil =>
    absurd hparsed.length_eq (by simp [hnil])
  have hkey : FileKey.find? files.keys key = some key :=
    FileKey.find?_of_mem ((Table.isSome_get?_iff files key).mp (by rw [htext]; rfl))
  have hmethod : Rule.method (dot.diagnostic "M0236" c.callRange).message c.call
      = Rule.method dot.message c.call := by
    rw [Rule.method, Rule.method, Heading.diagnostic, Rule.proposedMethod?_dropEndReturns]
  obtain ⟨hcontent, hcodes⟩ := c.treat_eq hparsed ⟨rfl, rfl⟩ ⟨rfl, rfl⟩ hargs
  rw [hmethod] at hcontent
  have hfix := session.fix_of_one_file files (some output) hne hfile hkey htext
    (by rw [hreg, hcontent]; exact c.turned_ne_text _ hargs)
  rw [hreg, hcontent, hcodes] at hfix
  exact hfix

/-- A call over two lines with characters that take two code units, and a message that proposes a
method. -/
def spreadCall : InstantiatedCall where
  pre := "let x =\n  "
  callee := "Map.get"
  types := "Nat, 😀"
  body := "m, (a,\n '😀')"
  post := ";\n"
  callee_ne := by decide
  callee_path := List.all_eq_true.mp (by decide)
  types_line := by decide
  body_closed := by decide

theorem Session.fix_instantiated_call_spread :
    let output : Text :=
      "checked\n" ++ "A.mo:2.3-3.8: warning [M0236], dot notation `m.find(...)`\n" ++
        "A.mo:2.10-2.19: type error [M0223], redundant\n"
    (({} : Session).fix (.ofList [("A.mo", spreadCall.text)]) output).2.1
      = some ⟨.ofList [("A.mo", "let x =\n  m.find((a,\n '😀'));\n")],
          .ofList [("M0223", 1), ("M0236", 1)]⟩ := by
  intro output
  let inst : Heading "A.mo" := {
    file := "A.mo", kind := errorKind, message := "redundant", file_ne := by decide
    file_colon := by decide, file_strip := by decide, kind_known := .inl rfl
    message_ne := by decide }
  let dot : Heading "A.mo" := {
    file := "A.mo", kind := warningKind, message := "dot notation `m.find(...)`"
    file_ne := by decide, file_colon := by decide, file_strip := by decide, kind_known := .inr rfl
    message_ne := by decide }
  have hfacts : Text.units spreadCall.text + 1 < 10 ^ Number.maxDigits ∧
      splitArguments spreadCall.body = [("m" : Text), ("(a,\n '😀')" : Text)] ∧
      output.lines.Perm (inst.line "M0223" spreadCall.instRange ::
        dot.line "M0236" spreadCall.callRange :: [("checked" : Text), []]) ∧
      ∀ line ∈ [("checked" : Text), []], Diagnostic.ofLine? line = none := by decide +kernel
  obtain ⟨hsize, hargs, hlines, hothers⟩ := hfacts
  have hfix := fix_instantiated_call {} rfl (.ofList [("A.mo", spreadCall.text)]) "A.mo"
    spreadCall rfl hsize "m" [("(a,\n '😀')" : Text)] hargs inst dot output
    [("checked" : Text), []] hlines hothers
  exact hfix.trans (by decide +kernel)

end Amend
