import Amend.Proofs.Spelling
import Mathlib.Algebra.Ring.Nat
import Mathlib.Data.List.Forall2

/-!
# Diagnostic lines read back

`DiagnosticLine.write` puts the fields of a line together, and `DiagnosticLine.read?` takes a line
apart.  A line whose fields have the form that the reader looks for is read as it was written
(`read?_write`).  No field can be taken for the beginning of the next one: each of them ends where a
character stands that it cannot hold.

`DiagnosticLine.Form` is that form, with the condition on the numbers left open: the reader takes
any digits, but not every number is a coordinate.

`DiagnosticLine.ofRange` is the line that reports a range, with its coordinates in decimal and
counted from one.  `Diagnostic.ofLine?_ofRange` says which diagnostic is read from it.
-/

namespace Amend

/-! ## Numerals -/

lemma digitValue?_of_isDigit {c : Char} (h : c.isDigit) :
    digitValue? c = some (c.toNat - '0'.toNat) := by
  have hrange : 48 ≤ c.toNat ∧ c.toNat < 58 := by
    simp only [Char.isDigit, ge_iff_le, Bool.and_eq_true, decide_eq_true_eq] at h
    exact ⟨h.1, Nat.lt_succ_of_le h.2⟩
  simp [digitValue?, digitZeros, hrange]

namespace Text

lemma isDigit_of_mem_ofNat {n : Nat} {c : Char} (h : c ∈ Text.ofNat n) : isDigit c := by
  rw [isDigit, digitValue?_of_isDigit (Nat.isDigit_of_mem_toDigits (by decide) (by decide) h)]
  rfl

lemma decimalValue_ofNat (n : Nat) : (Text.ofNat n).decimalValue = n := by
  have hdigits : (Text.ofNat n).decimalValue = Nat.ofDigitChars 10 (Nat.toDigits 10 n) 0 := by
    refine List.foldl_ext _ _ _ fun m c hc => ?_
    rw [digitValue?_of_isDigit (Nat.isDigit_of_mem_toDigits (by decide) (by decide) hc)]
    rfl
  rw [hdigits, Nat.ofDigitChars_ten_toDigits]

end Text

/-- **Coordinates read back**, unless they have too many digits for a number. -/
lemma coordinate?_ofNat {n : Nat} (h : n + 1 < 10 ^ Number.maxDigits) :
    coordinate? (Text.ofNat (n + 1)) = some (n : Int) := by
  have hlength : (Text.ofNat (n + 1)).length ≤ Number.maxDigits :=
    (Nat.length_toDigits_le_iff (by decide) (by decide)).mpr h
  rw [coordinate?, Text.decimalValue_ofNat, if_neg]
  · simp
  · simp only [Bool.or_eq_true, decide_eq_true_eq]
    omega

/-! ## Fields -/

lemma takeSome?_append_cons {p : Char → Bool} {t : Text} (hne : t ≠ []) (ht : ∀ c ∈ t, p c)
    {c : Char} (hc : p c = false) (rest : Text) :
    takeSome? p (t ++ c :: rest) = some (t, c :: rest) := by
  have hrest : (c :: rest).dropWhile p = c :: rest := by simp [hc]
  have key := takeSome?_append hne ht (c :: rest)
  rwa [hrest] at key

lemma Text.isPrefixOf?_append (lead t : Text) : lead.isPrefixOf? (lead ++ t) = some t :=
  List.isPrefixOf?_eq_some_iff_append_eq.mpr rfl

/-- The text is the word, in any mixture of cases. -/
def Spells (word t : Text) : Prop :=
  List.Forall₂ (fun w c => sameIgnoringCase w c = true) word t

/-- A text that spells the word is found in front of any other. -/
lemma takeIgnoringCase?_append {word t : Text} (h : Spells word t) (rest : Text) :
    takeIgnoringCase? word (t ++ rest) = some (t, rest) := by
  induction h with
  | nil => cases rest <;> rfl
  | cons hc _ ih =>
      rw [List.cons_append, takeIgnoringCase?, if_pos hc, ih]
      rfl

lemma of_takeIgnoringCase? : ∀ {word s t rest : Text},
    takeIgnoringCase? word s = some (t, rest) → Spells word t ∧ t ++ rest = s
  | [], s, t, rest, h => by
      cases h
      exact ⟨.nil, rfl⟩
  | w :: ws, c :: cs, t, rest, h => by
      rw [takeIgnoringCase?] at h
      split at h
      · next hc =>
        obtain ⟨⟨t', rest'⟩, htail, heq⟩ := Option.map_eq_some_iff.mp h
        cases heq
        obtain ⟨hspells, rfl⟩ := of_takeIgnoringCase? htail
        exact ⟨.cons hc hspells, rfl⟩
      · cases h

lemma bind_of_eq_some {α β : Type} {x : Option α} {a : α} {f : α → Option β} (h : x = some a) :
    (x >>= f) = f a := by
  rw [h]
  rfl

namespace DiagnosticLine

/-- No text begins with both kinds: their first letters differ. -/
lemma not_spells_both {t u rest rest' : Text} (ht : Spells errorKind t)
    (hu : Spells warningKind u) : t ++ rest ≠ u ++ rest' := by
  have ht : Spells ('t' :: errorKind.tail) t := ht
  have hu : Spells ('w' :: warningKind.tail) u := hu
  obtain ⟨c, cs, hc, -, rfl⟩ := List.forall₂_cons_left_iff.mp ht
  obtain ⟨d, ds, hd, -, rfl⟩ := List.forall₂_cons_left_iff.mp hu
  intro heq
  obtain rfl : c = d := (List.cons.inj heq).1
  simp only [sameIgnoringCase, Char.reduceBEq, Bool.false_and, Bool.or_false, beq_iff_eq] at hc hd
  exact absurd (hc.symm.trans hd) (by decide)

lemma takeKind?_append {kind : Text} (h : Spells errorKind kind ∨ Spells warningKind kind)
    (t : Text) : takeKind? (kind ++ t) = some (kind, t) := by
  rcases h with herror | hwarning
  · rw [takeKind?, takeIgnoringCase?_append herror]
    rfl
  · have hnone : takeIgnoringCase? errorKind (kind ++ t) = none := by
      refine Option.eq_none_iff_forall_ne_some.mpr fun ⟨other, rest⟩ hother => ?_
      obtain ⟨hspells, heq⟩ := of_takeIgnoringCase? hother
      exact not_spells_both hspells hwarning heq
    rw [takeKind?, hnone, takeIgnoringCase?_append hwarning]
    rfl

/-- A text of digits. -/
def IsNumeral (t : Text) : Prop := t ≠ [] ∧ ∀ c ∈ t, isDigit c

lemma isNumeral_ofNat (n : Nat) : IsNumeral (Text.ofNat n) :=
  ⟨Nat.toDigits_ne_nil, fun _ => Text.isDigit_of_mem_ofNat⟩

/-- The text is a code: the letter M in either case, and digits. -/
def IsCode (t : Text) : Prop := ∃ m digits, t = m :: digits ∧ (m = 'M' ∨ m = 'm') ∧ IsNumeral digits

lemma takeCode?_append {code : Text} (h : IsCode code) {c : Char} (hc : isDigit c = false)
    (t : Text) : takeCode? (code ++ c :: t) = some (code, c :: t) := by
  obtain ⟨m, digits, rfl, hm, hdigits⟩ := h
  rw [List.cons_append, takeCode?, if_pos (by simpa using hm),
    takeSome?_append_cons hdigits.1 hdigits.2 hc]
  rfl

/-- **The form of a diagnostic line**, with what is asked of its numbers. -/
structure Form (number : Text → Prop) (l : DiagnosticLine) : Prop where
  file_ne : l.file ≠ []
  file_colon : ':' ∉ l.file
  startLine : number l.startLine
  startChar : number l.startChar
  stopLine : number l.stopLine
  stopChar : number l.stopChar
  kind : Spells errorKind l.kind ∨ Spells warningKind l.kind
  code : IsCode l.code
  message : l.message ≠ []

/-- Compilers print the kind in lower case. -/
lemma spells_of_kind {kind : Text} (h : kind = errorKind ∨ kind = warningKind) :
    Spells errorKind kind ∨ Spells warningKind kind := by
  rcases h with rfl | rfl
  · exact .inl (List.forall₂_same.mpr (List.all_eq_true.mp (by decide)))
  · exact .inr (List.forall₂_same.mpr (List.all_eq_true.mp (by decide)))

/-- The written line, each field in front of all that follows it. -/
lemma write_eq (l : DiagnosticLine) : l.write = l.file ++ ':' :: (l.startLine ++ '.' ::
    (l.startChar ++ '-' :: (l.stopLine ++ '.' :: (l.stopChar ++ ':' :: ' ' ::
      (l.kind ++ ' ' :: '[' :: (l.code ++ ']' :: ',' :: ' ' :: l.message)))))) := by
  simp [write]

/-- **A diagnostic line reads back as it is written.** -/
lemma read?_write {l : DiagnosticLine} (h : l.Form IsNumeral) : read? l.write = some l := by
  have hfile : ∀ c ∈ l.file, decide (c ≠ ':') = true :=
    fun c hc => decide_eq_true fun heq => h.file_colon (heq ▸ hc)
  have hmessage : l.message.isEmpty = false := List.isEmpty_eq_false_iff.mpr h.message
  have hnumeral : ∀ {t : Text}, IsNumeral t → ∀ {c : Char}, isDigit c = false → ∀ rest : Text,
      takeSome? isDigit (t ++ c :: rest) = some (t, c :: rest) :=
    fun ht _ hc rest => takeSome?_append_cons ht.1 ht.2 hc rest
  rw [write_eq]
  refine (bind_of_eq_some (takeSome?_append_cons h.file_ne hfile (by decide) _)).trans ?_
  refine (bind_of_eq_some (Text.isPrefixOf?_append ":" _)).trans ?_
  refine (bind_of_eq_some (hnumeral h.startLine (by decide) _)).trans ?_
  refine (bind_of_eq_some (Text.isPrefixOf?_append "." _)).trans ?_
  refine (bind_of_eq_some (hnumeral h.startChar (by decide) _)).trans ?_
  refine (bind_of_eq_some (Text.isPrefixOf?_append "-" _)).trans ?_
  refine (bind_of_eq_some (hnumeral h.stopLine (by decide) _)).trans ?_
  refine (bind_of_eq_some (Text.isPrefixOf?_append "." _)).trans ?_
  refine (bind_of_eq_some (hnumeral h.stopChar (by decide) _)).trans ?_
  refine (bind_of_eq_some (Text.isPrefixOf?_append ": " _)).trans ?_
  refine (bind_of_eq_some (takeKind?_append h.kind _)).trans ?_
  refine (bind_of_eq_some (Text.isPrefixOf?_append " [" _)).trans ?_
  refine (bind_of_eq_some (takeCode?_append h.code (by decide) _)).trans ?_
  refine (bind_of_eq_some (Text.isPrefixOf?_append "], " _)).trans ?_
  rw [hmessage]
  rfl

/-- The line that reports a range.  Its coordinates are printed from one. -/
def ofRange (file : Text) (range : Range) (kind code message : Text) : DiagnosticLine where
  file := file
  startLine := Text.ofInt (range.start.line + 1)
  startChar := Text.ofInt (range.start.character + 1)
  stopLine := Text.ofInt (range.stop.line + 1)
  stopChar := Text.ofInt (range.stop.character + 1)
  kind := kind
  code := code
  message := message

end DiagnosticLine

/-- The coordinates of the position are natural numbers that can be printed from one. -/
structure Position.Printable (p : Position) : Prop where
  line : ∃ n : Nat, p.line = n ∧ n + 1 < 10 ^ Number.maxDigits
  character : ∃ n : Nat, p.character = n ∧ n + 1 < 10 ^ Number.maxDigits

section

variable {file kind code message digits : Text} {range : Range} (hfile : file ≠ [])
  (hcolon : ':' ∉ file) (hkind : kind = errorKind ∨ kind = warningKind)
  (hcode : code = 'M' :: digits) (hdigits : DiagnosticLine.IsNumeral digits)
  (hmessage : message ≠ []) (hstart : range.start.Printable) (hstop : range.stop.Printable)

include hfile hcolon hkind hcode hdigits hmessage hstart hstop

lemma DiagnosticLine.form_ofRange : (ofRange file range kind code message).Form IsNumeral := by
  obtain ⟨⟨a, ha, -⟩, b, hb, -⟩ := hstart
  obtain ⟨⟨c, hc, -⟩, d, hd, -⟩ := hstop
  have hnumeral : ∀ n : Nat, IsNumeral (Text.ofInt ((n : Int) + 1)) :=
    fun n => isNumeral_ofNat (n + 1)
  exact {
    file_ne := hfile
    file_colon := hcolon
    startLine := by simpa only [ofRange, ha] using hnumeral a
    startChar := by simpa only [ofRange, hb] using hnumeral b
    stopLine := by simpa only [ofRange, hc] using hnumeral c
    stopChar := by simpa only [ofRange, hd] using hnumeral d
    kind := spells_of_kind hkind
    code := ⟨'M', digits, hcode, .inl rfl, hdigits⟩
    message := hmessage }

/-- **The diagnostic that is read from the line of a range.** -/
lemma Diagnostic.ofLine?_ofRange :
    let line := DiagnosticLine.ofRange file range kind code message
    ofLine? line.write = some ⟨file.strip, range, code.upperAscii, message.dropEndReturns,
      line.severity⟩ := by
  have hform := DiagnosticLine.form_ofRange hfile hcolon hkind hcode hdigits hmessage hstart hstop
  obtain ⟨⟨a, ha, ha'⟩, b, hb, hb'⟩ := hstart
  obtain ⟨⟨c, hc, hc'⟩, d, hd, hd'⟩ := hstop
  have hcoordinate : ∀ {i : Int} {n : Nat}, i = n → n + 1 < 10 ^ Number.maxDigits →
      coordinate? (Text.ofInt (i + 1)) = some i := by
    rintro _ n rfl hn
    exact coordinate?_ofNat hn
  intro line
  rw [ofLine?, DiagnosticLine.read?_write hform]
  refine (bind_of_eq_some (hcoordinate ha ha')).trans ?_
  refine (bind_of_eq_some (hcoordinate hb hb')).trans ?_
  refine (bind_of_eq_some (hcoordinate hc hc')).trans ?_
  refine (bind_of_eq_some (hcoordinate hd hd')).trans ?_
  rfl

end

end Amend
