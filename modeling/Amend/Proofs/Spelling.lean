import Amend.Proofs.PassOrder
import Amend.Proofs.PathComponents
import Amend.Proofs.Places
import Mathlib.Data.List.DropRight
import Mathlib.Data.List.TakeWhile

/-!
# How a path is spelled

A compiler may report one file under several paths.  `respell` writes an output anew, with every
path replaced by the one that its file was supplied under, and `parseAll_respell` says what this does
to the diagnostics.

Nothing else in a pass depends on the path of a diagnostic: not its fixes (`treat_respelled`, for
rules that do not look at the path), not the supplied file that its group is about
(`FileKey.find?_canonical`).  What may change is the grouping.  As long as every file is reported
under one path, groups stay groups (`Diagnostic.reported_respelled`, `Diagnostic.under_respelled`)
and the pass is the same (`Pass.run_respelled`).

Under two paths a file has two groups.  The second one finds the text that the first has left, but
the positions of its diagnostics are still those of the supplied text, so that the wrong text may be
deleted.
-/

namespace Amend

open Diagnostic (reported under OneSpelling)

/-! ## Paths -/

namespace FileKey

/-- The path that a reported file was supplied under; the path of an unknown file stays. -/
def canonical (keys : List Text) (file : Text) : Text := (find? keys file).getD file

/-- A path that reads back as it is written at the beginning of a diagnostic line. -/
structure Legible (key : Text) : Prop where
  ne_nil : key ≠ []
  no_colon : ':' ∉ key
  no_newline : '\n' ∉ key
  strip_eq : key.strip = key

instance (key : Text) : Decidable (Legible key) :=
  decidable_of_iff (key ≠ [] ∧ ':' ∉ key ∧ '\n' ∉ key ∧ key.strip = key)
    ⟨fun ⟨h₁, h₂, h₃, h₄⟩ => ⟨h₁, h₂, h₃, h₄⟩,
      fun h => ⟨h.ne_nil, h.no_colon, h.no_newline, h.strip_eq⟩⟩

variable {keys : List Text} {file : Text}

lemma canonical_of_eq_none (h : find? keys file = none) : canonical keys file = file := by
  rw [canonical, h, Option.getD_none]

lemma canonical_of_eq_some {key : Text} (h : find? keys file = some key) :
    canonical keys file = key := by
  rw [canonical, h, Option.getD_some]

/-- The new path means the same supplied file as the old one. -/
lemma find?_canonical (keys : List Text) (file : Text) :
    find? keys (canonical keys file) = find? keys file := by
  cases h : find? keys file with
  | none => rw [canonical_of_eq_none h, h]
  | some key => rw [canonical_of_eq_some h, find?_of_mem (mem_of_find? h)]

end FileKey

/-! ## Lines -/

lemma Text.newline_not_mem_of_mem_lines (t : Text) : ∀ l ∈ t.lines, '\n' ∉ l := by
  induction t using Text.line_induction with
  | last l hl => rw [Text.lines_of_not_mem hl]; simpa using hl
  | more l rest hl ih =>
      rw [Text.lines_append_newline hl]
      intro l' hl'
      rcases List.mem_cons.mp hl' with rfl | hrest
      · exact hl
      · exact ih l' hrest

lemma takeSome?_append {p : Char → Bool} {key : Text} (hne : key ≠ []) (hkey : ∀ c ∈ key, p c)
    (t : Text) : takeSome? p (key ++ t.dropWhile p) = some (key, t.dropWhile p) := by
  have htail : (t.dropWhile p).takeWhile p = [] := by
    rw [List.takeWhile_eq_nil_iff]
    intro hl
    have hhead := List.head_dropWhile_not p (List.ne_nil_of_length_pos hl)
    simpa [List.head_eq_getElem] using hhead
  obtain ⟨c, cs, rfl⟩ := List.exists_cons_of_ne_nil hne
  rw [takeSome?, List.takeWhile_append_of_pos hkey, List.dropWhile_append_of_pos hkey, htail,
    List.dropWhile_idempotent, List.append_nil]

lemma takeSome?_eq_some {p : Char → Bool} {t front rest : Text}
    (h : takeSome? p t = some (front, rest)) : rest = t.dropWhile p := by
  unfold takeSome? at h
  split at h
  · cases h
  · cases h
    rfl

lemma bind_eq_map_bind {α β γ : Type} {x : Option α} {f : α → Option β} {g : α → Option γ}
    {φ : β → γ} (h : ∀ a, g a = (f a).map φ) : x.bind g = (x.bind f).map φ := by
  cases x with
  | none => rfl
  | some a => exact h a

namespace DiagnosticLine

/-- What stands after the first colon of a line is read without regard to what stands before. -/
lemma read?_replace {line key : Text} {l : DiagnosticLine} (hkey : FileKey.Legible key)
    (h : read? line = some l) :
    read? (key ++ line.dropWhile (· ≠ ':')) = some { l with file := key } := by
  have hcolon : ∀ c ∈ key, decide (c ≠ ':') := by
    intro c hc
    exact decide_eq_true fun heq => hkey.no_colon (heq ▸ hc)
  obtain ⟨⟨file, rest⟩, hfile, hfields⟩ := Option.bind_eq_some_iff.mp h
  obtain rfl := takeSome?_eq_some hfile
  have hline : some { l with file := key }
      = (some l).map fun l : DiagnosticLine => { l with file := key } := rfl
  rw [hline, ← hfields, read?, takeSome?_append hkey.ne_nil hcolon]
  -- The reader goes through the fields one by one, and puts the path into the line at the end.
  rw [Option.bind_eq_bind, Option.bind_some]
  repeat refine bind_eq_map_bind fun _ => ?_
  split <;> rfl

lemma diagnostic?_withFile (l : DiagnosticLine) (file : Text) :
    ({ l with file } : DiagnosticLine).diagnostic?
      = l.diagnostic?.map fun d => { d with file := file.strip } := by
  unfold diagnostic?
  repeat refine bind_eq_map_bind fun _ => ?_
  rfl

end DiagnosticLine

namespace Diagnostic

/-- The diagnostic under the path that its file was supplied under. -/
def respelled (keys : List Text) (d : Diagnostic) : Diagnostic :=
  { d with file := FileKey.canonical keys d.file }

/-- A line with the path of its diagnostic replaced, if it reports one of a supplied file. -/
def respellLine (keys : List Text) (line : Text) : Text :=
  match (ofLine? line).bind fun d => FileKey.find? keys d.file with
  | none => line
  | some key => key ++ line.dropWhile (· ≠ ':')

/-- An output with the paths of its diagnostics replaced. -/
def respell (keys : List Text) (output : Text) : Text :=
  Text.joinWith ['\n'] (output.lines.map (respellLine keys))

variable {keys : List Text} (hkeys : ∀ key ∈ keys, FileKey.Legible key)

include hkeys

lemma ofLine?_respellLine (line : Text) :
    ofLine? (respellLine keys line) = (ofLine? line).map (respelled keys) := by
  cases hline : ofLine? line with
  | none => rw [respellLine, hline, Option.bind_none, hline, Option.map_none]
  | some d =>
      rw [respellLine, hline, Option.bind_some, Option.map_some, respelled]
      cases hkey : FileKey.find? keys d.file with
      | none => rw [FileKey.canonical_of_eq_none hkey, hline]
      | some key =>
          have hlegible := hkeys key (FileKey.mem_of_find? hkey)
          obtain ⟨l, hl, hd⟩ := Option.bind_eq_some_iff.mp hline
          rw [FileKey.canonical_of_eq_some hkey, ofLine?, DiagnosticLine.read?_replace hlegible hl,
            Option.bind_some, DiagnosticLine.diagnostic?_withFile, hd, Option.map_some,
            hlegible.strip_eq]

lemma newline_not_mem_respellLine {line : Text} (h : '\n' ∉ line) :
    '\n' ∉ respellLine keys line := by
  rw [respellLine]
  split
  · exact h
  · next key hkey =>
    obtain ⟨d, -, hfind⟩ := Option.bind_eq_some_iff.mp hkey
    rw [List.mem_append, not_or]
    exact ⟨(hkeys key (FileKey.mem_of_find? hfind)).no_newline,
      fun hmem => h (List.dropWhile_subset _ hmem)⟩

/-- The diagnostics of an output with its paths replaced. -/
lemma parseAll_respell (output : Text) :
    parseAll (respell keys output) = (parseAll output).map (respelled keys) := by
  have hlines : (respell keys output).lines = output.lines.map (respellLine keys) := by
    refine List.splitOn_intercalate '\n' ?_ ?_
    · intro l hl
      obtain ⟨line, hline, rfl⟩ := List.mem_map.mp hl
      exact newline_not_mem_respellLine hkeys (Text.newline_not_mem_of_mem_lines output line hline)
    · exact fun h => List.splitOn_ne_nil '\n' output (List.map_eq_nil_iff.mp h)
  rw [parseAll, hlines, List.filterMap_map, parseAll, List.map_filterMap]
  exact List.filterMap_congr fun line _ => ofLine?_respellLine hkeys line

omit hkeys

/-! ## Groups -/

variable {ds : List Diagnostic}

/-- Different reported paths stay different. -/
lemma OneSpelling.injective (h : OneSpelling keys ds) {d d' : Diagnostic} (hd : d ∈ ds)
    (hd' : d' ∈ ds) (heq : FileKey.canonical keys d.file = FileKey.canonical keys d'.file) :
    d.file = d'.file := by
  have hfind : FileKey.find? keys d.file = FileKey.find? keys d'.file := by
    rw [← FileKey.find?_canonical keys d.file, heq, FileKey.find?_canonical]
  cases hkey : FileKey.find? keys d.file with
  | some key => exact h d hd d' hd' (by rw [hkey]; rfl) hfind
  | none =>
      rwa [FileKey.canonical_of_eq_none hkey, FileKey.canonical_of_eq_none (hfind ▸ hkey)] at heq

lemma reported_respelled (h : OneSpelling keys ds) :
    reported (ds.map (respelled keys)) = (reported ds).map (FileKey.canonical keys) := by
  induction ds using List.reverseRecOn with
  | nil => rfl
  | append_singleton ds d ih =>
      have hds : OneSpelling keys ds := fun d hd d' hd' =>
        h d (List.mem_append_left _ hd) d' (List.mem_append_left _ hd')
      have hmem : FileKey.canonical keys d.file ∈ (reported ds).map (FileKey.canonical keys)
          ↔ d.file ∈ reported ds := by
        rw [List.mem_map]
        constructor
        · rintro ⟨file, hfile, heq⟩
          obtain ⟨d', hd', rfl⟩ := mem_reported.mp hfile
          exact h.injective (List.mem_append_left _ hd') (by simp) heq ▸ hfile
        · exact fun hfile => ⟨d.file, hfile, rfl⟩
      rw [List.map_append, List.map_singleton, reported_concat, reported_concat, ih hds]
      simp only [respelled, hmem]
      split
      · rfl
      · rw [List.map_append, List.map_singleton]

lemma under_respelled (h : OneSpelling keys ds) {file : Text} (hfile : file ∈ reported ds) :
    under (ds.map (respelled keys)) (FileKey.canonical keys file)
      = (under ds file).map (respelled keys) := by
  obtain ⟨d, hd, rfl⟩ := mem_reported.mp hfile
  rw [under, List.filter_map, under]
  congr 1
  refine List.filter_congr fun d' hd' => ?_
  rw [Function.comp_apply, respelled, decide_eq_decide]
  exact ⟨fun heq => h.injective hd' hd heq, fun heq => heq ▸ rfl⟩

end Diagnostic

/-! ## Passes -/

open Diagnostic (respelled respell)

/-- The rule does not look at the path of a diagnostic. -/
def Rule.IgnoresPath (rule : Rule) : Prop :=
  ∀ (d : Diagnostic) (file : Text) (s : Snapshot), rule.edit? { d with file } s = rule.edit? d s

/-- No rule of the registry looks at the path of a diagnostic. -/
def Registry.IgnoresPaths (reg : Registry) : Prop :=
  ∀ code rule, reg.rule? code = some rule → rule.IgnoresPath

lemma Rule.all_ignorePath : ∀ rule ∈ Rule.all, rule.IgnoresPath := by
  intro rule hrule d file s
  simp only [Rule.all, List.mem_cons, List.not_mem_nil, or_false] at hrule
  rcases hrule with rfl | rfl | rfl <;> rfl

namespace Registry

lemma IgnoresPaths.register {reg reg' : Registry} {rule : Rule} (h : reg.IgnoresPaths)
    (hrule : rule.IgnoresPath) (hreg : reg.register rule = .ok reg') : reg'.IgnoresPaths := by
  intro code rule' hget
  rw [rule?_of_register hreg] at hget
  split at hget
  · cases hget
    exact hrule
  · exact h code rule' hget

lemma IgnoresPaths.registerAll : ∀ {rules : List Rule} {reg : Registry}, reg.IgnoresPaths →
    (∀ rule ∈ rules, rule.IgnoresPath) → (reg.registerAll rules).IgnoresPaths
  | [], _, h, _ => h
  | rule :: rules, reg, h, hrules => by
      have hrest : ∀ rule ∈ rules, rule.IgnoresPath := fun r hr =>
        hrules r (List.mem_cons_of_mem _ hr)
      have hfirst : ((reg.register rule).toOption.getD reg).IgnoresPaths := by
        cases hreg : reg.register rule with
        | error e => exact h
        | ok reg' => exact h.register (hrules rule List.mem_cons_self) hreg
      show (Registry.registerAll ((reg.register rule).toOption.getD reg) rules).IgnoresPaths
      exact hfirst.registerAll hrest

lemma standard_ignoresPaths : Registry.standard.IgnoresPaths := by
  refine IgnoresPaths.registerAll ?_ Rule.all_ignorePath
  intro code rule hget
  cases hget

end Registry

section

variable {reg : Registry} (hreg : reg.IgnoresPaths) (keys : List Text)

include hreg

lemma synthesize_respelled (ds : List Diagnostic) (s : Snapshot) :
    reg.synthesize (ds.map (respelled keys)) s = reg.synthesize ds s := by
  rw [Registry.synthesize, List.filterMap_map, Registry.synthesize]
  refine List.filterMap_congr fun d _ => ?_
  simp only [Function.comp_apply, respelled]
  cases hrule : reg.rule? d.code with
  | none => rfl
  | some rule =>
      rw [Option.bind_some, Option.bind_some, hreg d.code rule hrule d]

lemma runPhase_respelled (phase : Phase) (ds : List Diagnostic) (text : Text) :
    runPhase reg phase (ds.map (respelled keys)) text = runPhase reg phase ds text := by
  rw [runPhase, List.filter_map, synthesize_respelled hreg]
  rfl

lemma treat_respelled (own : List Diagnostic) (text : Text) :
    treat reg (own.map (respelled keys)) text = treat reg own text := by
  rw [treat, treat, runPhase_respelled hreg]
  set one := runPhase reg .first own text
  have hpast : (own.map (respelled keys)).map (Diagnostic.pastFixes one.applied)
      = (own.map (Diagnostic.pastFixes one.applied)).map (respelled keys) := by
    rw [List.map_map, List.map_map]
    rfl
  rw [hpast, runPhase_respelled hreg]

lemma Pass.step_respelled (files : Table Text Text) (pass : Pass) (file : Text)
    (own : List Diagnostic) :
    step reg files pass (FileKey.canonical files.keys file, own.map (respelled files.keys))
      = step reg files pass (file, own) := by
  have hfind := FileKey.find?_canonical files.keys file
  cases hkey : FileKey.find? files.keys file with
  | none =>
      rw [FileKey.canonical_of_eq_none hkey, step, step]
      simp only [hkey]
  | some key =>
      rw [hkey] at hfind
      rw [step_of_find? pass hfind, step_of_find? pass hkey]
      simp only [treat_respelled hreg]

lemma Pass.run_respelled (files : Table Text Text) {ds : List Diagnostic}
    (h : OneSpelling files.keys ds) :
    run reg files (ds.map (respelled files.keys)) = run reg files ds := by
  have hgroups : (Diagnostic.groupByFile (ds.map (respelled files.keys))).entries
      = (Diagnostic.groupByFile ds).entries.map fun group =>
          (FileKey.canonical files.keys group.1, group.2.map (respelled files.keys)) := by
    rw [Diagnostic.entries_groupByFile, Diagnostic.reported_respelled h,
      Diagnostic.entries_groupByFile, List.map_map, List.map_map]
    refine List.map_congr_left fun file hfile => ?_
    rw [Function.comp_apply, Diagnostic.under_respelled h hfile]
    rfl
  rw [run, hgroups, List.foldl_map]
  simp only [step_respelled hreg]
  rfl

end

/-- **The spelling of a path does not matter**, if no file is reported under two of them: a pass
changes the same files in the same way, and counts and notices are the same too. -/
theorem Session.fix_respell (session : Session) (hreg : session.registry.IgnoresPaths)
    (files : Table Text Text) (hkeys : ∀ key ∈ files.keys, FileKey.Legible key)
    (output : Option Text) (hspelling : OneSpelling files.keys (Diagnostic.parse output)) :
    session.fix files (output.map (respell files.keys)) = session.fix files output := by
  have hparse : Diagnostic.parse (output.map (respell files.keys))
      = (Diagnostic.parse output).map (respelled files.keys) := by
    cases output with
    | none => rfl
    | some output => exact Diagnostic.parseAll_respell hkeys output
  have hcounts : Diagnostic.countByCode ((Diagnostic.parse output).map (respelled files.keys))
      = Diagnostic.countByCode (Diagnostic.parse output) := by
    rw [Diagnostic.countByCode, List.map_map]
    rfl
  simp only [fix, hparse, hcounts, Pass.run_respelled hreg files hspelling]

theorem Session.fix_respell_relative :
    let files : Table Text Text := .ofList [("Main.mo", "f<A>(x)"), ("/work/B.mo", "g<B>(y)")]
    let output : Text := "./Main.mo:1.2-1.5: warning [M0223], a\nB.mo:1.2-1.5: warning [M0223], b"
    respell files.keys output
        = "Main.mo:1.2-1.5: warning [M0223], a\n/work/B.mo:1.2-1.5: warning [M0223], b".toList ∧
      ({} : Session).fix files (respell files.keys output) = ({} : Session).fix files output := by
  intro files output
  exact ⟨by decide +kernel, fix_respell {} Registry.standard_ignoresPaths files (by decide +kernel)
    output (by decide +kernel)⟩

/-- **One file under two paths.**  After the first deletion the second one is three characters off:
it takes away an argument and leaves the instantiation. -/
theorem Session.fix_twoSpellings :
    let files : Table Text Text := .ofList [("Main.mo", "f<A>(g<B>(x))")]
    let output : Text :=
      "Main.mo:1.2-1.5: warning [M0223], a\n./Main.mo:1.7-1.10: warning [M0223], b"
    (∀ key ∈ files.keys, FileKey.Legible key) ∧
      (({} : Session).fix files output).2.1.map (·.files)
        = some (.ofList [("Main.mo", "f(g<B>)")]) ∧
      (({} : Session).fix files (respell files.keys output)).2.1.map (·.files)
        = some (.ofList [("Main.mo", "f(g(x))")]) := by
  decide +kernel

end Amend
