import Amend.Proofs.Rounds
import Amend.Replay
import Mathlib.Tactic.ByContra
import Mathlib.Tactic.Set

/-!
# Rounds that come to rest

Where the output of a compiler depends on nothing but the texts that it is shown, a run that was not
cut off by its limit leaves nothing to do for the next one.  Three things have to fit together.

**What is shown.**  `onDisk` is the table of the texts that the supplied files hold, and
`Replay.shown` the same with all rounds so far entered.  This is what the rounds themselves take for
the present texts, at every question (`Replay.on_drive`).

**Where the rounds end.**  `Settled` says that the compiler has nothing to report about some texts,
or nothing that can be fixed.  That does not depend on what earlier rounds have left behind
(`Progress.advance_of_settled`, `Progress.advance_of_not_settled`), so the rounds end exactly where
it holds, if they do not use up their limit.

**What is written.**  `Sources` are files under different names.  Writing a text to one of them is
entering it in the table of what is on disk (`Sources.write`), so the disk ends up with the present
texts (`Replay.on_writeAll`).
-/

namespace Amend

/-! ## Tables with the same keys -/

namespace Table

variable {κ α : Type} [DecidableEq κ]

lemma entries_eq_filterMap (t : Table κ α) :
    t.entries = t.keys.filterMap fun k => (t.get? k).map fun v => (k, v) := by
  rw [keys, List.filterMap_map]
  have hsome : ∀ e ∈ t.entries, some e = (t.get? e.1).map fun v => (e.1, v) := by
    intro e he
    rw [get?_of_mem (show (e.1, e.2) ∈ t.entries from he)]
    rfl
  exact List.filterMap_some.symm.trans (List.filterMap_congr hsome)

lemma ext_get? {s t : Table κ α} (hkeys : s.keys = t.keys) (hget : ∀ k, s.get? k = t.get? k) :
    s = t := by
  apply eq_of_entries
  rw [entries_eq_filterMap s, entries_eq_filterMap t, hkeys]
  simp only [hget]

lemma keys_insert_of_mem {t : Table κ α} {k : κ} (h : k ∈ t.keys) (v : α) :
    (t.insert k v).keys = t.keys := by
  rw [keys_insert, if_pos h]

lemma keys_insertAll_of_subset : ∀ (es : List (κ × α)) (t : Table κ α),
    es.map Prod.fst ⊆ t.keys → (t.insertAll es).keys = t.keys
  | [], _, _ => rfl
  | e :: es, t, h => by
      rw [List.map_cons, List.cons_subset] at h
      have hkeys := keys_insert_of_mem h.1 e.2
      have hrest : (t.insertAll (e :: es)).keys = (t.insert e.1 e.2).keys :=
        keys_insertAll_of_subset es (t.insert e.1 e.2) (by rw [hkeys]; exact h.2)
      rw [hrest, hkeys]

/-- The order of the keys depends on the keys that are entered, not on their values. -/
lemma keys_insertAll_congr : ∀ {es es' : List (κ × α)} {t t' : Table κ α},
    es.map Prod.fst = es'.map Prod.fst → t.keys = t'.keys →
      (t.insertAll es).keys = (t'.insertAll es').keys
  | [], [], _, _, _, ht => ht
  | e :: es, e' :: es', t, t', hes, ht => by
      rw [List.map_cons, List.map_cons, List.cons.injEq] at hes
      have hinsert : (t.insert e.1 e.2).keys = (t'.insert e'.1 e'.2).keys := by
        rw [keys_insert, keys_insert, hes.1, ht]
      have hrest := keys_insertAll_congr hes.2 hinsert
      exact hrest

lemma get?_insertAll_filterMap (g : κ → Option α) (k : κ) : ∀ (l : List κ) (t : Table κ α),
    (t.insertAll (l.filterMap fun a => (g a).map fun v => (a, v))).get? k
      = if k ∈ l then (g k).or (t.get? k) else t.get? k
  | [], t => by simp [insertAll]
  | a :: l, t => by
      cases hg : g a with
      | none =>
          rw [List.filterMap_cons_none (by rw [hg]; rfl), get?_insertAll_filterMap g k l t]
          by_cases hk : k = a
          · simp [hk, hg]
          · simp [hk]
      | some v =>
          have hcons : (a :: l).filterMap (fun a => (g a).map fun v => (a, v))
              = (a, v) :: l.filterMap fun a => (g a).map fun v => (a, v) :=
            List.filterMap_cons_some (by rw [hg]; rfl)
          rw [hcons]
          refine (get?_insertAll_filterMap g k l (t.insert a v)).trans ?_
          rw [get?_insert]
          by_cases hk : k = a
          · simp [hk, hg]
          · simp [hk]

lemma get?_filter (t : Table κ α) (p : κ × α → Bool) (k : κ) :
    (t.filter p).get? k = (t.get? k).filter fun v => p (k, v) := by
  cases hget : t.get? k with
  | none =>
      rw [get?_eq_none_iff] at hget
      rw [Option.filter_none, get?_eq_none_iff]
      exact fun hmem => hget (List.map_subset _ (List.filter_subset_self _) hmem)
  | some v =>
      have hmem := mem_of_get? hget
      by_cases hp : p (k, v) = true
      · rw [Option.filter_some, if_pos hp]
        exact get?_of_mem (List.mem_filter.mpr ⟨hmem, hp⟩)
      · rw [Option.filter_some, if_neg hp, get?_eq_none_iff]
        intro hkey
        obtain ⟨e, he, hk⟩ := List.mem_map.mp hkey
        obtain ⟨het, hpe⟩ := List.mem_filter.mp he
        have heq : e = (k, v) := List.inj_on_of_nodup_map t.nodup het hmem hk
        exact hp (heq ▸ hpe)

/-- **To enter what is different is to enter everything.** -/
lemma insertAll_filter_ne [DecidableEq α] {s t : Table κ α} (hkeys : t.keys = s.keys) :
    s.insertAll (t.filter fun e => s.get? e.1 ≠ some e.2).entries = t := by
  have hsubset : (t.filter fun e => s.get? e.1 ≠ some e.2).keys ⊆ s.keys := by
    rw [← hkeys]
    exact List.map_subset _ (List.filter_subset_self _)
  refine ext_get? ?_ fun k => ?_
  · rw [keys_insertAll_of_subset _ _ hsubset, hkeys]
  · rw [get?_insertAll, get?_filter]
    cases ht : t.get? k with
    | none =>
        have hs : s.get? k = none := by
          rw [get?_eq_none_iff, ← hkeys, ← get?_eq_none_iff, ht]
        simp [hs]
    | some v =>
        by_cases hs : s.get? k = some v
        · simp [hs, Option.filter]
        · simp [hs, Option.filter]

end Table

/-! ## What the files hold -/

/-- The text that a file holds. -/
def FileTree.text? (tree : FileTree) (p : Path) : Option Text :=
  match tree.read p with
  | .ok content => content.toText.toOption
  | .error _ => none

lemma FileTree.text?_eq_some_iff {tree : FileTree} {p : Path} {t : Text} :
    tree.text? p = some t ↔ ∃ content, tree.read p = .ok content ∧ content.toText = .ok t := by
  unfold text?
  cases tree.read p with
  | error e => simp
  | ok content => cases htext : content.toText <;> simp [htext, Except.toOption]

/-- **A file is written.**  Each path leads where it led, and only those that lead to the file find
another text. -/
lemma FileTree.write_of_isSome_text? {tree : FileTree} {p : Path} (h : (tree.text? p).isSome)
    (text : Text) :
    ∃ after, tree.write p (.text text) = .ok after ∧
      ∀ other, (tree.text? other).isSome → after.locate other = tree.locate other ∧
        (tree.locate other = tree.locate p → after.text? other = some text) ∧
        (tree.locate other ≠ tree.locate p → after.text? other = tree.text? other) := by
  obtain ⟨_, hold⟩ := Option.isSome_iff_exists.mp h
  obtain ⟨old, hread, -⟩ := text?_eq_some_iff.mp hold
  obtain ⟨loc, hloc, hentry⟩ := read_eq_ok_iff.mp hread
  have hrewrites := (Rewrites.refl (fun _ => True) tree).rewrite trivial hentry (.text text)
  set after : FileTree := ⟨tree.entries.insert loc (.file (.text text))⟩ with hafter
  refine ⟨after, write_of_file hloc hentry _, fun other hother => ?_⟩
  obtain ⟨text', htext'⟩ := Option.isSome_iff_exists.mp hother
  obtain ⟨content, hread', htoText⟩ := text?_eq_some_iff.mp htext'
  obtain ⟨loc', hloc', hentry'⟩ := read_eq_ok_iff.mp hread'
  have hlocAfter : after.locate other = .ok loc' := hrewrites.sameDirectories.locate hloc'
  have hnil := ne_nil_of_entry?_eq_file hentry'
  have hget : after.entry? loc' = if loc' = loc then some (.file (.text text))
      else tree.entry? loc' := by
    rw [entry?_of_ne_nil hnil, entry?_of_ne_nil hnil, hafter, Table.get?_insert]
  rw [hloc, hloc', Except.ok.injEq, ne_eq, Except.ok.injEq]
  refine ⟨hlocAfter, fun heq => ?_, fun hne => ?_⟩
  · rw [if_pos heq] at hget
    exact text?_eq_some_iff.mpr ⟨.text text, read_eq_ok_iff.mpr ⟨loc', hlocAfter, hget⟩, rfl⟩
  · rw [if_neg hne] at hget
    rw [htext']
    exact text?_eq_some_iff.mpr
      ⟨content, read_eq_ok_iff.mpr ⟨loc', hlocAfter, hget.trans hentry'⟩, htoText⟩

/-- The texts that the supplied files hold, by the paths that they are supplied under. -/
def onDisk (dir : Path) (files : List Text) (tree : FileTree) : Table Text Text :=
  .ofList (files.eraseDups.filterMap fun file =>
    (tree.text? (dir.under (.ofText file))).map fun text => (file, text))

/-- **Supplied files.**  Each path leads to a file that holds text, and no two paths lead to the
same one. -/
structure Sources (dir : Path) (tree : FileTree) (files : List Text) : Prop where
  readable : ∀ file ∈ files, (tree.text? (dir.under (.ofText file))).isSome
  distinct : ∀ file ∈ files, ∀ other ∈ files,
    tree.locate (dir.under (.ofText file)) = tree.locate (dir.under (.ofText other)) → file = other

namespace Sources

variable {dir : Path} {tree : FileTree} {files : List Text}

/-- **A supplied file is written.**  Only this file holds another text. -/
lemma write (h : Sources dir tree files) {file : Text} (hfile : file ∈ files) (text : Text) :
    ∃ after, tree.write (dir.under (.ofText file)) (.text text) = .ok after ∧
      Sources dir after files ∧
        ∀ other ∈ files, after.text? (dir.under (.ofText other))
          = if other = file then some text else tree.text? (dir.under (.ofText other)) := by
  obtain ⟨after, hwrite, hothers⟩ :=
    FileTree.write_of_isSome_text? (h.readable file hfile) text
  have htext : ∀ other ∈ files, after.text? (dir.under (.ofText other))
      = if other = file then some text else tree.text? (dir.under (.ofText other)) := by
    intro other hother
    obtain ⟨-, hsame, helse⟩ := hothers _ (h.readable other hother)
    by_cases heq : other = file
    · rw [if_pos heq]
      exact hsame (by rw [heq])
    · -- No other path leads there.
      rw [if_neg heq]
      exact helse fun hloc => heq (h.distinct other hother file hfile hloc)
  refine ⟨after, hwrite, ⟨fun other hother => ?_, fun other hother other' hother' heq => ?_⟩, htext⟩
  · rw [htext other hother]
    split
    · rfl
    · exact h.readable other hother
  · rw [(hothers _ (h.readable other hother)).1, (hothers _ (h.readable other' hother')).1] at heq
    exact h.distinct other hother other' hother' heq

end Sources

lemma get?_onDisk (dir : Path) (files : List Text) (tree : FileTree) (file : Text) :
    (onDisk dir files tree).get? file
      = if file ∈ files then tree.text? (dir.under (.ofText file)) else none := by
  have hget := Table.get?_insertAll_filterMap
    (fun file : Text => tree.text? (dir.under (.ofText file))) file files.eraseDups .empty
  simp only [Table.get?_empty, Option.or_none, List.mem_eraseDups] at hget
  exact hget

lemma mem_keys_onDisk {dir : Path} {tree : FileTree} {files : List Text}
    (h : ∀ file ∈ files, (tree.text? (dir.under (.ofText file))).isSome) {file : Text} :
    file ∈ (onDisk dir files tree).keys ↔ file ∈ files := by
  rw [← Table.isSome_get?_iff, get?_onDisk]
  constructor
  · intro hsome
    by_contra hfile
    simp [hfile] at hsome
  · intro hfile
    rw [if_pos hfile]
    exact h file hfile

/-- The paths are in the order in which they are supplied, whatever the files hold. -/
lemma keys_onDisk_congr {dir : Path} {tree tree' : FileTree} {files : List Text}
    (h : Sources dir tree files) (h' : Sources dir tree' files) :
    (onDisk dir files tree).keys = (onDisk dir files tree').keys := by
  have hfst : ∀ {tree : FileTree}, Sources dir tree files →
      (files.eraseDups.filterMap fun file : Text =>
        (tree.text? (dir.under (.ofText file))).map fun text => (file, text)).map Prod.fst
          = files.eraseDups := by
    intro tree h
    rw [List.map_filterMap]
    refine (List.filterMap_congr fun file hfile => ?_).trans List.filterMap_some
    obtain ⟨text, htext⟩ := Option.isSome_iff_exists.mp
      (h.readable file (List.mem_eraseDups.mp hfile))
    simp [htext]
  exact Table.keys_insertAll_congr ((hfst h).trans (hfst h').symm) rfl

/-- To write a file is to enter its text. -/
lemma onDisk_write {dir : Path} {tree after : FileTree} {files : List Text} {file text : Text}
    (h : Sources dir tree files) (h' : Sources dir after files) (hfile : file ∈ files)
    (htext : ∀ other ∈ files, after.text? (dir.under (.ofText other))
      = if other = file then some text else tree.text? (dir.under (.ofText other))) :
    onDisk dir files after = (onDisk dir files tree).insert file text := by
  refine Table.ext_get? ?_ fun other => ?_
  · rw [Table.keys_insert_of_mem ((mem_keys_onDisk h.readable).mpr hfile), keys_onDisk_congr h' h]
  · rw [Table.get?_insert, get?_onDisk, get?_onDisk]
    by_cases hother : other ∈ files
    · rw [if_pos hother, if_pos hother, htext other hother]
    · have hne : other ≠ file := fun heq => hother (heq ▸ hfile)
      rw [if_neg hother, if_neg hother, if_neg hne]

/-! ## Runs on a replay -/

namespace Replay

namespace Play

variable {α β : Type}

/-- Runs a computation. -/
def on (play : Play α) (replay : Replay) : Except Fault α × Replay := (ExceptT.run play).run replay

lemma on_bind_ok {x : Play α} {replay after : Replay} {a : α} (h : x.on replay = (.ok a, after))
    (f : α → Play β) : (x >>= f).on replay = (f a).on after := by
  show (ExceptT.bindCont f (x.on replay).1) (x.on replay).2 = _
  rw [h]
  rfl

lemma on_onBench (run : Run α) (replay : Replay) :
    (onBench run).on replay
      = ((run.on replay.bench).1, { replay with bench := (run.on replay.bench).2 }) := by
  have hget : (get : Play Replay).on replay = (.ok replay, replay) := rfl
  rw [onBench, on_bind_ok hget]
  rcases run.on replay.bench with ⟨result, bench⟩
  cases result <;> rfl

end Play

/-! ## A compiler that judges by the texts -/

/-- A compiler, as far as its output depends on the present texts of the supplied files. -/
abbrev Judge := Table Text Text → Option Text

/-- The texts that a compiler is shown: those on disk, with the texts of all rounds entered. -/
def shown (dir : Path) (files : List Text) (replay : Replay) : Table Text Text :=
  replay.rounds.foldl (fun texts changed => texts.insertAll changed.entries)
    (onDisk dir files replay.bench.tree)

/-- The rounds with files of the tree and a compiler that judges by the texts it is shown. -/
def judgedHost (judge : Judge) (dir : Path) : Host Play :=
  { host dir with
    diagnose := fun files => modifyGet fun replay =>
      (judge (replay.shown dir files), { replay with questions := replay.questions ++ [files] }) }

/-- Makes the rounds on a tree with such a compiler, for a requested limit, and gives what comes of
them with the replay afterwards. -/
def judgedRun (judge : Judge) (dir : Path) (registry : Registry) (files : List Text)
    (requested : Int) (write : Bool) (tree : FileTree) : Except Fault (Option Summary) × Replay :=
  Play.on
    (match roundLimit? requested with
    | none => throw .roundLimit
    | some limit => autofix (judgedHost judge dir) registry files limit write)
    { bench := { tree } }

/-- The rounds ended because of an answer: the compiler was asked once more than there were rounds
that changed files.  Rounds that go on until their limit end with such a round. -/
def EndedByAnswer (replay : Replay) : Prop := replay.questions.length = replay.rounds.length + 1

instance (replay : Replay) : Decidable replay.EndedByAnswer :=
  inferInstanceAs (Decidable (_ = _))

end Replay

open Replay (Judge)

/-- **Nothing is left to do.**  The compiler has nothing to report about the texts, or nothing of
what it reports can be fixed. -/
def Settled (judge : Judge) (registry : Registry) (texts : Table Text Text) : Prop :=
  ((judge texts).getD []).isEmpty = true ∨ (Session.fix { registry } texts (judge texts)).2.1 = none

lemma Progress.advance_of_settled {judge : Judge} {p : Progress}
    (h : Settled judge p.session.registry p.current) :
    ∃ p' notices, p.advance (judge p.current) = (p', notices, .stop) ∧ p'.current = p.current := by
  unfold advance
  by_cases hempty : ((judge p.current).getD []).isEmpty = true
  · rw [if_pos hempty]
    exact ⟨p, _, rfl, rfl⟩
  · -- The result of a pass depends on the session by its rules only.
    have hfix : (p.session.fix p.current (judge p.current)).2.1 = none := h.resolve_left hempty
    rw [if_neg hempty]
    simp only [hfix]
    exact ⟨_, _, rfl, rfl⟩

lemma Progress.advance_of_not_settled {judge : Judge} {p : Progress}
    (h : ¬ Settled judge p.session.registry p.current) :
    ∃ p' notices files, p.advance (judge p.current) = (p', notices, .changed files) ∧
      p'.current = p.current.insertAll files.entries ∧ files.keys ⊆ p.current.keys ∧
        p'.session.registry = p.session.registry := by
  obtain ⟨hempty, hfix⟩ := not_or.mp h
  obtain ⟨r, hr⟩ := Option.ne_none_iff_exists'.mp hfix
  have hresult : (p.session.fix p.current (judge p.current)).2.1 = some r := hr
  unfold advance
  rw [if_neg hempty]
  simp only [hresult]
  exact ⟨_, _, _, rfl, rfl, Pass.keys_result_subset hresult, rfl⟩

/-- A summary has the texts that differ from what was read; if there are none, there is no
summary. -/
lemma Progress.summary?_cases (p : Progress) (before : Table Text Text) :
    (p.summary? before = none ∧
        (p.current.filter fun e => before.get? e.1 ≠ some e.2).entries = []) ∨
      ∃ summary, p.summary? before = some summary ∧
        summary.files = p.current.filter fun e => before.get? e.1 ≠ some e.2 := by
  unfold summary?
  simp only
  split
  · next hempty => exact .inl ⟨rfl, List.isEmpty_iff.mp hempty⟩
  · exact .inr ⟨_, rfl, rfl⟩

lemma Progress.summary?_of_current_eq {p : Progress} {before : Table Text Text}
    (h : p.current = before) : p.summary? before = none := by
  have hempty : (p.current.filter fun e => before.get? e.1 ≠ some e.2).entries = [] := by
    refine List.filter_eq_nil_iff.mpr fun e he => ?_
    rw [h] at he
    simp [Table.get?_of_mem he]
  exact if_pos (List.isEmpty_iff.mpr hempty)

namespace Replay

variable {judge : Judge} {dir : Path} {files : List Text}

/-! ## Reading and writing -/

lemma judgedHost_read (file : Text) : (judgedHost judge dir).read file
    = onBench (Run.readText (dir.under (.ofText file))) := rfl

lemma judgedHost_write (file text : Text) : (judgedHost judge dir).write file text
    = onBench (Run.writeText (dir.under (.ofText file)) text) := rfl

lemma on_read {replay : Replay} {file text : Text}
    (h : replay.bench.tree.text? (dir.under (.ofText file)) = some text) :
    Play.on ((judgedHost judge dir).read file) replay = (.ok text, replay) := by
  obtain ⟨content, hread, htext⟩ := FileTree.text?_eq_some_iff.mp h
  have hon : (Run.readText (dir.under (.ofText file))).on replay.bench
      = (.ok text, replay.bench) := by
    rw [Run.readText, Run.on_bind_ok (Run.on_get _), Run.on_bind, Run.on_ofFile, hread]
    simp only [Except.mapError, htext]
    rfl
  rw [judgedHost_read, Play.on_onBench, hon]

/-- All files are read, and what has been read is what they hold. -/
lemma on_readAll {replay : Replay} (h : Sources dir replay.bench.tree files) :
    Play.on (readAll (judgedHost judge dir) files) replay
      = (.ok (onDisk dir files replay.bench.tree), replay) := by
  have hloop : ∀ (l : List Text) (texts : Table Text Text), l ⊆ files →
      Play.on (l.foldlM (fun texts path => do
          let text ← (judgedHost judge dir).read path
          pure (texts.insert path text)) texts) replay
        = (.ok (texts.insertAll (l.filterMap fun file : Text =>
            (replay.bench.tree.text? (dir.under (.ofText file))).map fun text => (file, text))),
          replay) := by
    intro l
    induction l with
    | nil => exact fun texts _ => rfl
    | cons file l ih =>
        intro texts hl
        rw [List.cons_subset] at hl
        obtain ⟨text, htext⟩ := Option.isSome_iff_exists.mp (h.readable file hl.1)
        rw [List.foldlM_cons, bind_assoc, Play.on_bind_ok (on_read htext), pure_bind,
          ih _ hl.2, List.filterMap_cons_some (by rw [htext]; rfl)]
        rfl
  exact hloop files.eraseDups .empty fun file hfile => List.mem_eraseDups.mp hfile

/-- **What is written.**  Each text is entered in the table of what is on disk. -/
lemma on_writeAll (judge : Judge) : ∀ (entries : List (Text × Text)) (replay : Replay),
    Sources dir replay.bench.tree files → entries.map Prod.fst ⊆ files →
      ∃ tree, Play.on (entries.forM fun (file, text) => (judgedHost judge dir).write file text)
          replay = (.ok (), { replay with bench := { replay.bench with tree } }) ∧
        Sources dir tree files ∧
          onDisk dir files tree = (onDisk dir files replay.bench.tree).insertAll entries
  | [], replay, h, _ => ⟨replay.bench.tree, rfl, h, rfl⟩
  | (file, text) :: entries, replay, h, hentries => by
      rw [List.map_cons, List.cons_subset] at hentries
      obtain ⟨tree, hwrite, hsources, htext⟩ := h.write hentries.1 text
      have hfirst : Play.on ((judgedHost judge dir).write file text) replay
          = (.ok (), { replay with bench := { replay.bench with tree } }) := by
        rw [judgedHost_write, Play.on_onBench, Run.on_writeText, hwrite]
      obtain ⟨tree', hrest, hsources', hdisk⟩ := on_writeAll judge entries
        { replay with bench := { replay.bench with tree } } hsources hentries.2
      refine ⟨tree', (Play.on_bind_ok hfirst _).trans hrest, hsources', ?_⟩
      rw [hdisk, onDisk_write h hsources hentries.1 htext]
      rfl

/-! ## Rounds -/

lemma on_notices (judge : Judge) (dir : Path) : ∀ (notices : List Notice) (replay : Replay),
    ∃ bench, bench.tree = replay.bench.tree ∧
      Play.on (notices.forM (judgedHost judge dir).note) replay = (.ok (), { replay with bench })
  | [], replay => ⟨replay.bench, rfl, rfl⟩
  | notice :: notices, replay => by
      set noted : Workbench :=
        { replay.bench with transcript := replay.bench.transcript ++ [.note notice] }
      have hfirst : Play.on ((judgedHost judge dir).note notice) replay
          = (.ok (), { replay with bench := noted }) := rfl
      obtain ⟨bench, htree, hrest⟩ := on_notices judge dir notices { replay with bench := noted }
      exact ⟨bench, htree, (Play.on_bind_ok hfirst _).trans hrest⟩

/-- One more question has been asked, and what was changed after it has been kept. -/
structure Asked (files : List Text) (changed : List (Table Text Text)) (replay after : Replay) :
    Prop where
  tree_eq : after.bench.tree = replay.bench.tree
  questions_eq : after.questions = replay.questions ++ [files]
  rounds_eq : after.rounds = replay.rounds ++ changed

lemma Asked.shown_eq {changed : List (Table Text Text)} {replay after : Replay}
    (h : Asked files changed replay after) :
    after.shown dir files = changed.foldl (fun texts changed => texts.insertAll changed.entries)
      (replay.shown dir files) := by
  rw [shown, shown, h.tree_eq, h.rounds_eq, List.foldl_append]

/-- What is kept of a round. -/
def keepVerdict (replay : Replay) : Verdict → Replay
  | .stop => replay
  | .changed changed => replay.keepRound changed

/-- A round never fails: it asks about the texts that are shown and does what the answer leads to. -/
lemma on_round {p p' : Progress} {replay : Replay} {notices : List Notice} {verdict : Verdict}
    (hp : p.current = replay.shown dir files)
    (hadvance : p.advance (judge p.current) = (p', notices, verdict)) :
    ∃ middle, Asked files [] replay middle ∧
      Play.on (round (judgedHost judge dir) files p) replay
        = (.ok (p', verdict), middle.keepVerdict verdict) := by
  set asked : Replay := { replay with questions := replay.questions ++ [files] }
  have hdiagnose : Play.on ((judgedHost judge dir).diagnose files) replay
      = (.ok (judge p.current), asked) := by
    rw [hp]
    rfl
  obtain ⟨bench, htree, hnotices⟩ := on_notices judge dir notices asked
  refine ⟨{ asked with bench }, ⟨htree, rfl, (List.append_nil _).symm⟩, ?_⟩
  rw [round, Play.on_bind_ok hdiagnose, hadvance]
  cases verdict with
  | stop => exact Play.on_bind_ok hnotices _
  | changed changed => exact Play.on_bind_ok hnotices _

/-- **The rounds.**  At their end the compiler would be shown what they take for the present texts.
If nothing is left to do with these, the last question brought that to light; otherwise each
question was followed by a round that changed files. -/
lemma on_drive (judge : Judge) (dir : Path) (files : List Text) :
    ∀ (limit : Nat) (p : Progress) (replay : Replay), p.current = replay.shown dir files →
      ∃ p' after, Play.on (drive (judgedHost judge dir) files limit p) replay = (.ok p', after) ∧
        after.bench.tree = replay.bench.tree ∧ p'.current = after.shown dir files ∧
        p'.current.keys = p.current.keys ∧
        (Settled judge p.session.registry p'.current ∨
          after.questions.length + replay.rounds.length
            = after.rounds.length + replay.questions.length)
  | 0, p, replay, hp => ⟨p, replay, rfl, rfl, hp, rfl, .inr (Nat.add_comm _ _)⟩
  | limit + 1, p, replay, hp => by
      rw [drive_succ]
      by_cases hsettled : Settled judge p.session.registry p.current
      · obtain ⟨p', notices, hadvance, hcurrent⟩ := Progress.advance_of_settled hsettled
        obtain ⟨middle, hasked, hround⟩ := on_round hp hadvance
        refine ⟨p', middle, Play.on_bind_ok hround _, hasked.tree_eq, ?_, ?_, .inl ?_⟩
        · rw [hcurrent, hp, hasked.shown_eq]
          rfl
        · rw [hcurrent]
        · rwa [hcurrent]
      · obtain ⟨p', notices, changed, hadvance, hcurrent, hkeys, hregistry⟩ :=
          Progress.advance_of_not_settled hsettled
        obtain ⟨middle, hasked, hround⟩ := on_round hp hadvance
        have hkept : Asked files [changed] replay (middle.keepRound changed) := by
          refine ⟨hasked.tree_eq, hasked.questions_eq, ?_⟩
          show middle.rounds ++ [changed] = _
          rw [hasked.rounds_eq, List.append_nil]
        have hp' : p'.current = (middle.keepRound changed).shown dir files := by
          rw [hcurrent, hp, hkept.shown_eq]
          rfl
        obtain ⟨p'', after, hdrive, htree, hshown, hkeys', hend⟩ :=
          on_drive judge dir files limit p' _ hp'
        refine ⟨p'', after, (Play.on_bind_ok hround _).trans hdrive, htree.trans hkept.tree_eq,
          hshown, ?_, ?_⟩
        · rw [hkeys', hcurrent, Table.keys_insertAll_of_subset _ _ hkeys]
        · rw [hregistry, hkept.questions_eq, hkept.rounds_eq] at hend
          refine hend.imp id fun hcount => ?_
          simp only [List.length_append, List.length_singleton] at hcount
          omega

/-! ## Whole runs -/

/-- **A run reads, makes rounds, and leaves the present texts on disk.** -/
lemma on_autofix (judge : Judge) (registry : Registry) {tree : FileTree}
    (h : Sources dir tree files) (limit : Nat) : ∃ result after,
      Play.on (autofix (judgedHost judge dir) registry files limit true) { bench := { tree } }
        = (.ok result, after) ∧
      Sources dir after.bench.tree files ∧
      (Settled judge registry (onDisk dir files after.bench.tree) ∨
        after.questions.length = after.rounds.length) := by
  set start : Replay := { bench := { tree } }
  set before := onDisk dir files tree
  have hread : Play.on (readAll (judgedHost judge dir) files) start = (.ok before, start) :=
    on_readAll h
  obtain ⟨p, middle, hdrive, htree, -, hkeys, hend⟩ := on_drive judge dir files limit
    (.start registry before) start rfl
  have hcounts : Settled judge registry p.current ∨
      middle.questions.length = middle.rounds.length := hend
  have hsources : Sources dir middle.bench.tree files := by
    rw [htree]
    exact h
  have hdisk : onDisk dir files middle.bench.tree = before := by rw [htree]
  -- What differs from what was read is written, so everything is on disk as it is now.
  have hkeys' : p.current.keys = before.keys := hkeys
  have hchanged := Table.insertAll_filter_ne hkeys'
  rw [autofix, Play.on_bind_ok hread, Play.on_bind_ok hdrive]
  rcases p.summary?_cases before with ⟨hnone, hempty⟩ | ⟨summary, hsome, hfiles⟩
  · rw [hnone]
    refine ⟨none, middle, rfl, hsources, ?_⟩
    rw [hempty] at hchanged
    rwa [hdisk, show before = p.current from hchanged]
  · rw [hsome]
    have hsubset : summary.files.keys ⊆ files := by
      intro file hfile
      have hcurrent : file ∈ p.current.keys := by
        rw [hfiles] at hfile
        exact List.map_subset _ (List.filter_subset_self _) hfile
      rw [hkeys'] at hcurrent
      exact (mem_keys_onDisk h.readable).mp hcurrent
    obtain ⟨written, hwrite, hsources', hdisk'⟩ := on_writeAll judge summary.files.entries
      middle hsources hsubset
    refine ⟨some summary, _, Play.on_bind_ok hwrite _, hsources', ?_⟩
    rw [hdisk, hfiles, hchanged] at hdisk'
    rwa [hdisk']

/-- **Where nothing is left to do, nothing is done.**  The compiler is asked once. -/
lemma judgedRun_of_settled {judge : Judge} {registry : Registry} {tree : FileTree}
    {requested : Int} (write : Bool) (h : Sources dir tree files)
    (hsettled : Settled judge registry (onDisk dir files tree)) (hlimit : 1 ≤ requested) :
    (judgedRun judge dir registry files requested write tree).1 = .ok none ∧
      (judgedRun judge dir registry files requested write tree).2.questions = [files] ∧
        (judgedRun judge dir registry files requested write tree).2.bench.tree = tree := by
  set start : Replay := { bench := { tree } }
  set before := onDisk dir files tree
  obtain ⟨limit, hrounds⟩ : ∃ limit, roundLimit? requested = some (limit + 1) := by
    refine ⟨min requested.toNat maxRounds - 1, ?_⟩
    rw [roundLimit?, if_neg (by omega), maxRounds]
    congr 1
    omega
  have hread : Play.on (readAll (judgedHost judge dir) files) start = (.ok before, start) :=
    on_readAll h
  obtain ⟨p', notices, hadvance, hcurrent⟩ := Progress.advance_of_settled
    (show Settled judge (Progress.start registry before).session.registry
      (Progress.start registry before).current from hsettled)
  obtain ⟨middle, hasked, hround⟩ := on_round
    (show (Progress.start registry before).current = start.shown dir files from rfl) hadvance
  have hnone : p'.summary? before = none := Progress.summary?_of_current_eq hcurrent
  have hrun : judgedRun judge dir registry files requested write tree = (.ok none, middle) := by
    rw [judgedRun, hrounds]
    show Play.on (autofix _ _ _ _ _) start = _
    rw [autofix, Play.on_bind_ok hread, drive_succ, bind_assoc, Play.on_bind_ok hround, pure_bind,
      hnone]
    rfl
  rw [hrun]
  exact ⟨rfl, hasked.questions_eq, hasked.tree_eq⟩

/-- **A run that was not cut off leaves nothing to do.**  If the rounds ended because the compiler
had nothing to report, or nothing that could be fixed, then that is how it is with the files as they
are on disk, and a second run asks the compiler once, has no result and changes no file. -/
theorem judgedRun_settles (judge : Judge) (dir : Path) (registry : Registry) (files : List Text)
    (requested : Int) (tree : FileTree) (hsources : Sources dir tree files)
    (hended : (judgedRun judge dir registry files requested true tree).2.EndedByAnswer) :
    let left := (judgedRun judge dir registry files requested true tree).2.bench.tree
    let again := judgedRun judge dir registry files requested true left
    Settled judge registry (onDisk dir files left) ∧ again.1 = .ok none ∧
      again.2.questions = [files] ∧ again.2.bench.tree = left := by
  intro left again
  by_cases hlimit : 1 ≤ requested
  · obtain ⟨limit, hrounds⟩ : ∃ limit, roundLimit? requested = some limit :=
      ⟨_, if_neg (by omega)⟩
    obtain ⟨result, after, hrun, hsources', hend⟩ := on_autofix judge registry hsources limit
    have hfirst : judgedRun judge dir registry files requested true tree = (.ok result, after) := by
      rw [judgedRun, hrounds]
      exact hrun
    have hleft : left = after.bench.tree := congrArg (fun r => r.2.bench.tree) hfirst
    have hsettled : Settled judge registry (onDisk dir files left) := by
      rw [hfirst] at hended
      rw [hleft]
      refine hend.resolve_right fun hcount => ?_
      have hmore : after.questions.length = after.rounds.length + 1 := hended
      omega
    have hsecond := judgedRun_of_settled true (hleft ▸ hsources') hsettled hlimit
    exact ⟨hsettled, hsecond⟩
  · -- Without rounds no question is asked.
    have hrounds : roundLimit? requested = none := if_pos (by omega)
    rw [judgedRun, hrounds] at hended
    cases hended

/-- A compiler that finds a redundant instantiation in one of two files, and when it is gone a call
that it would like to see turned around; then it has a warning left for which there is no rule. -/
def exampleJudge : Judge := fun texts =>
  if texts.get? "a.mo" = some "L.f<T>(x)".toList then
    some "a.mo:1.4-1.7: warning [M0223], redundant"
  else if texts.get? "a.mo" = some "L.f(x)".toList then
    some "a.mo:1.1-1.7: warning [M0236], dot notation"
  else some "b.mo:1.1-1.2: warning [M0194], unused"

def exampleTree : FileTree :=
  ⟨.ofList [(["a.mo"], .file (.text "L.f<T>(x)")), (["b.mo"], .file (.text "y"))]⟩

/-- A run with two rounds and a third question. -/
def exampleRun : Except Fault (Option Summary) × Replay :=
  judgedRun exampleJudge (.ofText "/") .standard ["a.mo", "b.mo"] 10 true exampleTree

theorem judgedRun_settles_twoRounds :
    exampleRun.2.questions.length = 3 ∧ exampleRun.2.EndedByAnswer ∧
      exampleRun.2.bench.tree.text? (.ofText "/a.mo") = some "x.f()".toList ∧
      (judgedRun exampleJudge (.ofText "/") .standard ["a.mo", "b.mo"] 10 true
        exampleRun.2.bench.tree).1 = .ok none := by
  have hsources : Sources (.ofText "/") exampleTree ["a.mo", "b.mo"] :=
    ⟨by decide +kernel, by decide +kernel⟩
  have hrun : exampleRun.2.questions.length = 3 ∧ exampleRun.2.EndedByAnswer ∧
      exampleRun.2.bench.tree.text? (.ofText "/a.mo") = some "x.f()".toList := by decide +kernel
  rw [exampleRun] at hrun ⊢
  obtain ⟨hquestions, hended, htext⟩ := hrun
  have hagain := judgedRun_settles exampleJudge (.ofText "/") .standard ["a.mo", "b.mo"] 10
    exampleTree hsources hended
  exact ⟨hquestions, hended, htext, hagain.2.1⟩

end Replay

end Amend
