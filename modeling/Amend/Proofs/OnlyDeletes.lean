import Amend.Proofs.Deletions
import Amend.Proofs.PassOrder

/-!
# Redundant instantiations are only deleted

For a redundant instantiation the first phase deletes the reported range and the second phase does
nothing.  A pass over diagnostics of this one kind should therefore leave a part of each text, in
the old order, whatever lines and characters were reported.

* `phaseFixes_first` and `phaseFixes_second` are the fixes that the standard rules find.
* `Range.InOrder`: in a given text the range does not end before it starts.  Deletions of such
  ranges leave a subsequence of the text, wherever else they lie (`treat_sublist`).
* `Pass.Shortened` is what holds after some of the groups.  `Pass.Shortened.step` is one group, and
  `Pass.Shortened.run` all of them.

The condition is needed, since nobody checks it: to delete a range that ends before it starts is to
repeat what lies between.  A report need not name its ends in the wrong order for this.  A start
beyond the end of its line is carried over to the lines below it, and may so overtake the end.
-/

namespace Amend

/-! ## The rules of the two phases -/

lemma codesOf_standard_first : Registry.standard.codesOf .first = [("M0223" : Text)] := by decide

lemma codesOf_standard_second :
    Registry.standard.codesOf .second = [("M0236" : Text), ("M0237" : Text)] := by decide

/-- The fix that deletes the range of a diagnostic. -/
def Diagnostic.deletion (d : Diagnostic) : Fix := .ofEdit (.deletion d.range) d.code

/-- **The fixes of the first phase** delete the ranges of the redundant instantiations. -/
lemma phaseFixes_first (ds : List Diagnostic) (text : Text) :
    phaseFixes .standard .first ds text
      = (ds.filter (·.code = ("M0223" : Text))).map Diagnostic.deletion := by
  have hfilter : ds.filter (fun d => (Registry.standard.codesOf .first).contains d.code)
      = ds.filter (·.code = ("M0223" : Text)) := by
    refine List.filter_congr fun d _ => ?_
    rw [codesOf_standard_first, List.contains_eq_mem, decide_eq_decide, List.mem_singleton]
  rw [phaseFixes, hfilter, Registry.synthesize, ← List.filterMap_eq_map]
  refine List.filterMap_congr fun d hd => ?_
  have hcode : d.code = "M0223" := of_decide_eq_true (List.mem_filter.mp hd).2
  have hrule : Registry.standard.rule? d.code = some Rule.typeInstantiation := by rw [hcode]; rfl
  rw [hrule]
  rfl

/-- The second phase passes over the redundant instantiations. -/
lemma phaseFixes_second (ds : List Diagnostic) (text : Text) :
    phaseFixes .standard .second ds text
      = Registry.standard.synthesize
          (ds.filter fun d => d.code = ("M0236" : Text) ∨ d.code = ("M0237" : Text))
          (.ofText text) := by
  have hfilter : ds.filter (fun d => (Registry.standard.codesOf .second).contains d.code)
      = ds.filter fun d => d.code = ("M0236" : Text) ∨ d.code = ("M0237" : Text) := by
    refine List.filter_congr fun d _ => ?_
    rw [codesOf_standard_second, List.contains_eq_mem, decide_eq_decide, List.mem_pair]
  rw [phaseFixes, hfilter]

/-- The second phase works on what the first one has left. -/
lemma treat_two (reg : Registry) (own : List Diagnostic) (text : Text) :
    let one := (treat reg own text).one
    (treat reg own text).two = applyFixes (.ofText one.content)
      (phaseFixes reg .second (own.map (Diagnostic.pastFixes one.applied)) one.content) := rfl

/-! ## Deletions in one text -/

/-- In the text of a snapshot, the range does not end before it starts. -/
def Range.InOrder (s : Snapshot) (r : Range) : Prop := s.offset r.start ≤ s.offset r.stop

instance (s : Snapshot) (r : Range) : Decidable (r.InOrder s) :=
  inferInstanceAs (Decidable (s.offset r.start ≤ s.offset r.stop))

section

variable {own : List Diagnostic} (hcodes : ∀ d ∈ own, d.code = "M0223")

include hcodes

lemma treat_standard_one (text : Text) :
    (treat .standard own text).one = applyFixes (.ofText text) (own.map Diagnostic.deletion) := by
  have hfilter : own.filter (·.code = ("M0223" : Text)) = own :=
    List.filter_eq_self.mpr fun d hd => decide_eq_true (hcodes d hd)
  rw [treat, runPhase_eq, phaseFixes_first, hfilter]

/-- After the first phase nothing is left to do. -/
lemma treat_standard_two (text : Text) :
    (treat .standard own text).two.content = (treat .standard own text).one.content := by
  have hnone : ∀ fixes : List Fix, (own.map (Diagnostic.pastFixes fixes)).filter
      (fun d => d.code = ("M0236" : Text) ∨ d.code = ("M0237" : Text)) = [] := by
    intro fixes
    rw [List.filter_eq_nil_iff]
    intro d hd
    obtain ⟨d', hd', rfl⟩ := List.mem_map.mp hd
    have hcode : (d'.pastFixes fixes).code = "M0223" := hcodes d' hd'
    rw [hcode]
    decide
  rw [treat_two, phaseFixes_second, hnone]
  rfl

/-- **One text.**  If every range is in order, the treatment leaves a subsequence of the text. -/
lemma treat_sublist {text : Text} (horder : ∀ d ∈ own, d.range.InOrder (.ofText text)) :
    (treat .standard own text).two.content.Sublist text := by
  have hnew : ∀ f ∈ own.map Diagnostic.deletion, f.newText = [] := by
    intro f hf
    obtain ⟨d, -, rfl⟩ := List.mem_map.mp hf
    rfl
  have hle : ∀ f ∈ own.map Diagnostic.deletion,
      f.startIn (.ofText text) ≤ f.stopIn (.ofText text) := by
    intro f hf
    obtain ⟨d, hd, rfl⟩ := List.mem_map.mp hf
    exact horder d hd
  rw [treat_standard_two hcodes, treat_standard_one hcodes,
    content_eq_without_of_ordered hnew hle]
  exact Text.without_sublist _ 0 text

end

/-! ## Deletions in a whole pass -/

namespace Pass

/-- The text that a group finds for the file that it is about. -/
def found (files : Table Text Text) (pass : Pass) (key : Text) : Text :=
  (pass.contents.get? key <|> files.get? key).getD []

/-- Every range is in order in the text that its group finds. -/
def RangesInOrder (files : Table Text Text) : Pass → List (Text × List Diagnostic) → Prop
  | _, [] => True
  | pass, group :: groups =>
    (∀ key ∈ FileKey.find? files.keys group.1, ∀ d ∈ group.2,
        d.range.InOrder (.ofText (pass.found files key))) ∧
      RangesInOrder files (step .standard files pass group) groups

instance decidableRangesInOrder (files : Table Text Text) :
    ∀ (pass : Pass) (groups : List (Text × List Diagnostic)),
      Decidable (RangesInOrder files pass groups)
  | _, [] => inferInstanceAs (Decidable True)
  | pass, group :: groups =>
    have := decidableRangesInOrder files (step .standard files pass group) groups
    inferInstanceAs (Decidable (_ ∧ RangesInOrder files (step .standard files pass group) groups))

/-- **What holds after some of the groups.**  The present text of a file is a subsequence of the
supplied one, and it is a shorter one if the file counts as changed. -/
structure Shortened (files : Table Text Text) (pass : Pass) : Prop where
  contents : ∀ key new, pass.contents.get? key = some new →
    ∃ text, files.get? key = some text ∧ new.Sublist text
  changed : ∀ key new, pass.changed.get? key = some new →
    ∃ text, files.get? key = some text ∧ new.Sublist text ∧ new.length < text.length

namespace Shortened

variable {files : Table Text Text} {pass : Pass}

lemma start (files : Table Text Text) : Shortened files {} where
  contents := fun _ _ h => nomatch h
  changed := fun _ _ h => nomatch h

/-- A group finds a subsequence of the supplied text. -/
lemma found_sublist (h : Shortened files pass) {key : Text} (hkey : key ∈ files.keys) :
    ∃ text, files.get? key = some text ∧ (pass.found files key).Sublist text := by
  obtain ⟨text, htext⟩ := Option.isSome_iff_exists.mp ((Table.isSome_get?_iff files key).mpr hkey)
  cases hcontents : pass.contents.get? key with
  | none => exact ⟨text, htext, by simp [found, hcontents, htext]⟩
  | some new =>
      obtain ⟨text', htext', hsub⟩ := h.contents key new hcontents
      exact ⟨text', htext', by simpa [found, hcontents] using hsub⟩

/-- **One group.** -/
lemma step (h : Shortened files pass) {group : Text × List Diagnostic}
    (hcodes : ∀ d ∈ group.2, d.code = "M0223")
    (horder : ∀ key ∈ FileKey.find? files.keys group.1, ∀ d ∈ group.2,
      d.range.InOrder (.ofText (pass.found files key))) :
    Shortened files (Pass.step .standard files pass group) := by
  cases hkey : FileKey.find? files.keys group.1 with
  | none =>
      have hnone : treatGroup .standard files group = none := by rw [treatGroup, hkey]; rfl
      rw [step_of_treatGroup_eq_none hnone]
      exact ⟨h.contents, h.changed⟩
  | some key =>
      obtain ⟨text, htext, hfound⟩ := h.found_sublist (FileKey.mem_of_find? hkey)
      have hsub := treat_sublist hcodes (horder key hkey)
      rw [step_of_find? pass hkey]
      refine ⟨fun key' new hget => ?_, fun key' new hget => ?_⟩
      · rw [Table.get?_insert] at hget
        split at hget
        · next heq =>
          cases hget
          exact ⟨text, heq ▸ htext, hsub.trans hfound⟩
        · exact h.contents key' new hget
      · dsimp only at hget
        split at hget
        · exact h.changed key' new hget
        · next hne =>
          rw [Table.get?_insert] at hget
          split at hget
          · next heq =>
            cases hget
            -- A subsequence of the text that is not the text itself is shorter.
            have hlt := Nat.lt_of_not_le fun hlen => hne (hsub.eq_of_length_le hlen)
            exact ⟨text, heq ▸ htext, hsub.trans hfound, hlt.trans_le hfound.length_le⟩
          · exact h.changed key' new hget

/-- **All groups.** -/
lemma run : ∀ {groups : List (Text × List Diagnostic)} {pass : Pass}, Shortened files pass →
    (∀ group ∈ groups, ∀ d ∈ group.2, d.code = "M0223") → RangesInOrder files pass groups →
      Shortened files (groups.foldl (Pass.step .standard files) pass)
  | [], _, h, _, _ => h
  | group :: groups, _, h, hcodes, horder => by
      have hstep := h.step (hcodes group List.mem_cons_self) horder.1
      exact hstep.run (fun g hg => hcodes g (List.mem_cons_of_mem group hg)) horder.2

end Shortened

end Pass

/-- **A pass over redundant instantiations only deletes.**  The ranges may lie beyond the text or
the line, overlap or repeat each other, and one file may be reported under several paths; each of
them only has to be in order in the text that it is applied to.  Then every changed file has lost
something, and what is left of it stands in the old order. -/
theorem Session.fix_only_deletes (session : Session) (hreg : session.registry = .standard)
    (files : Table Text Text) (output : Option Text)
    (hcodes : ∀ d ∈ Diagnostic.parse output, d.code = "M0223")
    (horder : Pass.RangesInOrder files {}
      (Diagnostic.groupByFile (Diagnostic.parse output)).entries)
    (result : FixResult) (hresult : (session.fix files output).2.1 = some result)
    (key new : Text) (hnew : result.files.get? key = some new) :
    ∃ text, files.get? key = some text ∧ new.Sublist text ∧ new.length < text.length := by
  have hgroups : ∀ group ∈ (Diagnostic.groupByFile (Diagnostic.parse output)).entries,
      ∀ d ∈ group.2, d.code = "M0223" := by
    intro group hgroup d hd
    rw [Diagnostic.entries_groupByFile] at hgroup
    obtain ⟨file, -, rfl⟩ := List.mem_map.mp hgroup
    exact hcodes d (List.mem_filter.mp hd).1
  have hshort := (Pass.Shortened.start files).run hgroups horder
  have hfix : (Pass.run .standard files (Diagnostic.parse output)).result? = some result := by
    rw [← hreg]
    exact hresult
  rw [Pass.result?] at hfix
  split at hfix
  · cases hfix
  · cases hfix
    exact hshort.changed key new hnew

/-- One file under two paths, and a range that goes on beyond the end of the text. -/
theorem Session.fix_only_deletes_beyond :
    let files : Table Text Text := .ofList [("A.mo", "f<A>(x)\ng")]
    let output : Text :=
      "A.mo:1.2-1.5: warning [M0223], a\n./A.mo:1.3-9.9: warning [M0223], b"
    let result : FixResult := ⟨.ofList [("A.mo", "f(")], .ofList [("M0223", 2)]⟩
    (({} : Session).fix files output).2.1 = some result ∧
      ∃ text, files.get? "A.mo" = some text ∧ List.Sublist ['f', '('] text ∧ 2 < text.length := by
  intro files output result
  have hfacts : (({} : Session).fix files output).2.1 = some result ∧
      (∀ d ∈ Diagnostic.parse output, d.code = "M0223") ∧
      Pass.RangesInOrder files {} (Diagnostic.groupByFile (Diagnostic.parse output)).entries := by
    decide +kernel
  obtain ⟨hresult, hcodes, horder⟩ := hfacts
  exact ⟨hresult, fix_only_deletes {} rfl files output hcodes horder result hresult "A.mo" _ rfl⟩

/-- **A start that overtakes its end.**  The range starts on the first line and ends on the second,
but the start lies beyond the end of its line.  What should be deleted is there twice. -/
theorem Session.fix_overtaken_end :
    let files : Table Text Text := .ofList [("Main.mo", "ab\ncd")]
    let output : Text := "Main.mo:1.9-2.1: warning [M0223], a"
    (∀ d ∈ Diagnostic.parse output, d.code = "M0223" ∧ d.range.start ≤ d.range.stop) ∧
      (({} : Session).fix files output).2.1.map (·.files)
        = some (.ofList [("Main.mo", "ab\ncdcd")]) ∧
      ¬ List.Sublist "ab\ncdcd".toList "ab\ncd".toList := by
  decide +kernel

end Amend
