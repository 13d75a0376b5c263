import Amend.Proofs.Counting
import Amend.Proofs.Settling
import Mathlib.Algebra.Ring.Int.Defs

/-!
# The account of a run

What a run of rounds does outside itself, in order, and how its result follows from that.

* `Deed` is something that a run asks its host to do, and `Host.logged` is the same host with a log
  of these.  `Replay.Runs` says what comes of a computation with the log and without it, so that the
  log is about the run as it is.
* `Passes` are the passes of the rounds: each works with the next output on the texts that the ones
  before have left.
* `Replay.runs_round` is one round, and `Replay.runs_drive` all of them: they ask and hand over, and
  nothing is written.
* `Replay.Mirrors` compares a run with one that hands nothing over.
* `Replay.Account` is the account of a whole run, and `Replay.Sums` the part of it that is about its
  outcome.
-/

namespace Amend

/-! ## Deeds -/

/-- Something that a run does outside itself. -/
inductive Deed where
  | read (file : Text)
  | ask (files : List Text)
  | round (changed : Table Text Text)
  | write (file text : Text)
  deriving DecidableEq

section

variable {m : Type → Type} [Monad m]

/-- Does something and enters it in the log. -/
def entered {α : Type} (deed : Deed) (x : m α) : StateT (List Deed) m α := do
  let a ← StateT.lift x
  modify (· ++ [deed])
  pure a

/-- The host with a log of what it does.  Notices are not entered. -/
def Host.logged (host : Host m) : Host (StateT (List Deed) m) where
  read := fun file => entered (.read file) (host.read file)
  write := fun file text => entered (.write file text) (host.write file text)
  diagnose := fun files => entered (.ask files) (host.diagnose files)
  onRound := fun changed => entered (.round changed) (host.onRound changed)
  note := fun notice => StateT.lift (host.note notice)

end

namespace Replay

/-- **A computation with and without a log** comes to the same, and does the given deeds. -/
structure Runs {α : Type} (logged : StateT (List Deed) Play α) (plain : Play α) (replay : Replay)
    (a : α) (deeds : List Deed) (after : Replay) : Prop where
  plain_on : plain.on replay = (.ok a, after)
  logged_on : ∀ log, Play.on (logged.run log) replay = (.ok (a, log ++ deeds), after)

namespace Runs

variable {α β : Type} {replay middle after : Replay} {a : α} {b : β} {deeds deeds' : List Deed}

lemma pure (a : α) (replay : Replay) : Runs (pure a) (pure a) replay a [] replay where
  plain_on := rfl
  logged_on := fun log => by rw [List.append_nil]; rfl

lemma bind {logged : StateT (List Deed) Play α} {plain : Play α}
    {next : α → StateT (List Deed) Play β} {next' : α → Play β}
    (h : Runs logged plain replay a deeds middle)
    (hnext : Runs (next a) (next' a) middle b deeds' after) :
    Runs (logged >>= next) (plain >>= next') replay b (deeds ++ deeds') after where
  plain_on := (Play.on_bind_ok h.plain_on _).trans hnext.plain_on
  logged_on := fun log => by
    rw [StateT.run_bind, Play.on_bind_ok (h.logged_on log), ← List.append_assoc]
    exact hnext.logged_on (log ++ deeds)

lemma bind_pure {logged : StateT (List Deed) Play α} {plain : Play α}
    (h : Runs logged plain replay a deeds after) (f : α → β) :
    Runs (logged >>= fun a => Pure.pure (f a)) (plain >>= fun a => Pure.pure (f a)) replay (f a)
      deeds after := by
  rw [← List.append_nil deeds]
  exact bind h (pure (f a) after)

lemma lift {plain : Play α} (h : plain.on replay = (.ok a, after)) :
    Runs (StateT.lift plain) plain replay a [] after where
  plain_on := h
  logged_on := fun log => by
    rw [StateT.run_lift, List.append_nil]
    exact Play.on_bind_ok h _

lemma entered (deed : Deed) {plain : Play α} (h : plain.on replay = (.ok a, after)) :
    Runs (entered deed plain) plain replay a [deed] after where
  plain_on := h
  logged_on := fun log => by
    have hlift := (Runs.lift h).logged_on log
    rw [List.append_nil] at hlift
    exact Play.on_bind_ok hlift _

end Runs

end Replay

/-! ## What differs between two tables -/

namespace Table

variable {κ α : Type} [DecidableEq κ] [DecidableEq α] {s t : Table κ α}

lemma get?_filter_ne {k : κ} {v : α} :
    (t.filter fun e => s.get? e.1 ≠ some e.2).get? k = some v
      ↔ t.get? k = some v ∧ s.get? k ≠ some v := by
  rw [get?_filter, Option.filter_eq_some_iff, decide_eq_true_eq]

lemma isEmpty_filter_ne_iff (hkeys : t.keys = s.keys) :
    (t.filter fun e => s.get? e.1 ≠ some e.2).isEmpty = true
      ↔ ∀ k ∈ s.keys, t.get? k = s.get? k := by
  constructor
  · intro hempty k hk
    rw [← hkeys, ← isSome_get?_iff] at hk
    obtain ⟨v, hv⟩ := Option.isSome_iff_exists.mp hk
    by_contra hne
    have hget := get?_filter_ne.mpr ⟨hv, fun hs => hne (hv.trans hs.symm)⟩
    have hmem := mem_of_get? hget
    rw [List.isEmpty_iff.mp hempty] at hmem
    exact absurd hmem List.not_mem_nil
  · intro hsame
    refine List.isEmpty_iff.mpr (List.filter_eq_nil_iff.mpr fun e he => ?_)
    have hkey : e.1 ∈ s.keys := hkeys ▸ List.mem_map.mpr ⟨e, he, rfl⟩
    rw [← hsame e.1 hkey, get?_of_mem (show (e.1, e.2) ∈ t.entries from he)]
    simp

end Table

/-! ## Numbers of several rounds -/

namespace Counts

/-- The numbers of two tables are added code by code. -/
lemma count_addAll (counts other : Counts) (code : Text) :
    (counts.addAll other).count code = counts.count code + other.count code := by
  have hfold : ∀ (entries : List (Text × Int)) (counts : Counts), (entries.map Prod.fst).Nodup →
      (entries.foldl (fun counts e => counts.add e.1 e.2) counts).count code
        = counts.count code + ((entries.find? fun e => e.1 = code).map Prod.snd).getD 0 := by
    intro entries
    induction entries with
    | nil => simp
    | cons e entries ih =>
        intro counts hnodup
        rw [List.map_cons, List.nodup_cons] at hnodup
        rw [List.foldl_cons, ih _ hnodup.2, count_add]
        by_cases hcode : e.1 = code
        · have hnone := Table.find?_of_not_mem (hcode ▸ hnodup.1)
          simp [hcode, hnone]
        · simp [hcode, Ne.symm hcode]
  exact hfold other.entries counts other.nodup

lemma mem_keys_addAll {counts other : Counts} {code : Text} :
    code ∈ (counts.addAll other).keys ↔ code ∈ counts.keys ∨ code ∈ other.keys := by
  have hfold : ∀ (entries : List (Text × Int)) (counts : Counts),
      code ∈ (entries.foldl (fun counts e => counts.add e.1 e.2) counts).keys
        ↔ code ∈ counts.keys ∨ code ∈ entries.map Prod.fst := by
    intro entries
    induction entries with
    | nil => simp
    | cons e entries ih =>
        intro counts
        rw [List.foldl_cons, ih, add, Table.mem_keys_insert, List.map_cons, List.mem_cons, or_assoc]
  exact hfold other.entries counts

/-- All parts together. -/
def total (parts : List Counts) : Counts := parts.foldl addAll .empty

lemma count_total (parts : List Counts) (code : Text) :
    (total parts).count code = (parts.map (·.count code)).sum := by
  have hfold : ∀ (parts : List Counts) (counts : Counts),
      (parts.foldl addAll counts).count code
        = counts.count code + (parts.map (·.count code)).sum := by
    intro parts
    induction parts with
    | nil => simp
    | cons part parts ih =>
        intro counts
        rw [List.foldl_cons, ih, count_addAll, List.map_cons, List.sum_cons, Int.add_assoc]
  rw [total, hfold, count_empty, Int.zero_add]

lemma mem_keys_total (parts : List Counts) (code : Text) :
    code ∈ (total parts).keys ↔ ∃ part ∈ parts, code ∈ part.keys := by
  have hfold : ∀ (parts : List Counts) (counts : Counts),
      code ∈ (parts.foldl addAll counts).keys
        ↔ code ∈ counts.keys ∨ ∃ part ∈ parts, code ∈ part.keys := by
    intro parts
    induction parts with
    | nil => simp
    | cons part parts ih =>
        intro counts
        simp only [List.foldl_cons, ih, mem_keys_addAll, List.exists_mem_cons_iff, or_assoc]
  simp [total, hfold]

end Counts

/-! ## Passes -/

/-- **The passes of rounds that changed files**: each works with the next output on the texts that
the ones before have left. -/
inductive Passes (registry : Registry) :
    Table Text Text → List (Option Text) → List FixResult → Prop
  | none (texts : Table Text Text) (outputs : List (Option Text)) : Passes registry texts outputs []
  | cons {texts : Table Text Text} {output : Option Text} {outputs : List (Option Text)}
      {r : FixResult} {rest : List FixResult} :
      (Session.fix { registry } texts output).2.1 = some r →
        Passes registry (texts.insertAll r.files.entries) outputs rest →
          Passes registry texts (output :: outputs) (r :: rest)

lemma Pass.changed_of_result? {pass : Pass} {r : FixResult} (h : pass.result? = some r) :
    r.files.entries ≠ [] := by
  unfold result? at h
  split at h
  · cases h
  · next hempty =>
    cases h
    exact fun hnil => hempty (List.isEmpty_iff.mpr hnil)

/-- Every pass changed something, and supplied files only. -/
lemma Passes.changed {registry : Registry} {texts : Table Text Text}
    {outputs : List (Option Text)} {results : List FixResult}
    (h : Passes registry texts outputs results) :
    ∀ r ∈ results, r.files.entries ≠ [] ∧ r.files.keys ⊆ texts.keys := by
  induction h with
  | none texts outputs => simp
  | @cons texts output outputs r rest hfix _ ih =>
      have hkeys : r.files.keys ⊆ texts.keys := Pass.keys_result_subset hfix
      intro r' hr'
      rcases List.mem_cons.mp hr' with rfl | hr'
      · exact ⟨Pass.changed_of_result? hfix, hkeys⟩
      · rw [Table.keys_insertAll_of_subset _ _ hkeys] at ih
        exact ih r' hr'

/-- The present texts after some rounds. -/
def enterAll (texts : Table Text Text) (results : List FixResult) : Table Text Text :=
  results.foldl (fun texts r => texts.insertAll r.files.entries) texts

lemma get?_enterAll (file : Text) : ∀ (results : List FixResult) (texts : Table Text Text),
    (enterAll texts results).get? file = textAfter texts (results.map FixResult.files) file
  | [], _ => rfl
  | r :: results, texts => by
      rw [List.map_cons, textAfter_cons]
      exact get?_enterAll file results _

lemma keys_enterAll : ∀ (results : List FixResult) (texts : Table Text Text),
    (∀ r ∈ results, r.files.keys ⊆ texts.keys) → (enterAll texts results).keys = texts.keys
  | [], _, _ => rfl
  | r :: results, texts, h => by
      rw [List.forall_mem_cons] at h
      have hkeys := Table.keys_insertAll_of_subset _ _ h.1
      refine (keys_enterAll results (texts.insertAll r.files.entries) ?_).trans hkeys
      rw [hkeys]
      exact h.2

/-- **What rounds leave**, given the results of those that changed files. -/
structure Progress.Entered (p : Progress) (results : List FixResult) (p' : Progress) : Prop where
  registry_eq : p'.session.registry = p.session.registry
  current_eq : p'.current = enterAll p.current results
  totals_eq : p'.totals = (results.map FixResult.counts).foldl Counts.addAll p.totals
  rounds_eq : p'.rounds = p.rounds + results.length

namespace Progress

lemma Entered.cons {p p' p'' : Progress} {r : FixResult} {rest : List FixResult}
    (h : p.Entered [r] p') (hrest : p'.Entered rest p'') : p.Entered (r :: rest) p'' where
  registry_eq := hrest.registry_eq.trans h.registry_eq
  current_eq := by rw [hrest.current_eq, h.current_eq]; rfl
  totals_eq := by rw [hrest.totals_eq, h.totals_eq]; rfl
  rounds_eq := by
    rw [hrest.rounds_eq, h.rounds_eq, List.length_singleton, List.length_cons]
    omega

/-- **What a round comes to.**  It ends the rounds and leaves everything as it is, or it enters the
result of a pass, which depends on the rules, the present texts and the output. -/
lemma advance_entered (p : Progress) (output : Option Text) :
    (∃ p' notices, p.advance output = (p', notices, .stop) ∧ p.Entered [] p') ∨
      ∃ p' notices r, p.advance output = (p', notices, .changed r.files) ∧ output ≠ none ∧
        (Session.fix { registry := p.session.registry } p.current output).2.1 = some r ∧
          p.Entered [r] p' := by
  unfold advance
  split
  · exact .inl ⟨p, _, rfl, ⟨rfl, rfl, rfl, rfl⟩⟩
  · next hreport =>
    -- The result of a pass depends on the session by its rules only.
    have hfix : p.session.fix p.current output
        = Session.fix { registry := p.session.registry } p.current output :=
      Session.fix_congr rfl p.current output
    cases hresult : (p.session.fix p.current output).2.1 with
    | none =>
        simp only [hresult]
        exact .inl ⟨_, _, rfl, ⟨rfl, rfl, rfl, rfl⟩⟩
    | some r =>
        simp only [hresult]
        refine .inr ⟨_, _, r, rfl, ?_, hfix ▸ hresult, ⟨rfl, rfl, rfl, rfl⟩⟩
        rintro rfl
        exact hreport rfl

end Progress

/-! ## Writing -/

/-- What is written after the rounds. -/
def written (write : Bool) (outcome : Option Summary) : List (Text × Text) :=
  if write then outcome.elim [] fun summary => summary.files.entries else []

lemma mem_written {write : Bool} {outcome : Option Summary} {e : Text × Text}
    (h : e ∈ written write outcome) :
    ∃ summary, outcome = some summary ∧ e.1 ∈ summary.files.keys := by
  unfold written at h
  split at h
  · cases outcome with
    | none => exact absurd h List.not_mem_nil
    | some summary => exact ⟨summary, rfl, List.mem_map.mpr ⟨e, h, rfl⟩⟩
  · exact absurd h List.not_mem_nil

/-- A run reads, makes rounds and writes. -/
lemma autofix_eq {m : Type → Type} [Monad m] [LawfulMonad m] (host : Host m) (registry : Registry)
    (paths : List Text) (limit : Nat) (write : Bool) :
    autofix host registry paths limit write = (do
      let before ← readAll host paths
      let p ← drive host paths limit (.start registry before)
      (written write (p.summary? before)).forM fun (file, text) => host.write file text
      pure (p.summary? before)) := by
  refine bind_congr fun before => bind_congr fun p => ?_
  cases p.summary? before with
  | none => cases write <;> simp [written]
  | some summary => cases write <;> simp [written]

namespace Replay

variable {dir : Path} {files : List Text}

/-! ## Reading and writing -/

lemma Play.on_bind_error {α β : Type} {x : Play α} {replay after : Replay} {fault : Fault}
    (h : x.on replay = (.error fault, after)) (f : α → Play β) :
    (x >>= f).on replay = (.error fault, after) := by
  show (ExceptT.bindCont f (x.on replay).1) (x.on replay).2 = _
  rw [h]
  rfl

lemma runs_readEach (replay : Replay) : ∀ (paths : List Text) (texts : Table Text Text),
    (∀ file ∈ paths, (replay.bench.tree.text? (dir.under (.ofText file))).isSome) →
      Runs
        (paths.foldlM (fun texts path => do
          let text ← (host dir).logged.read path
          pure (texts.insert path text)) texts)
        (paths.foldlM (fun texts path => do
          let text ← (host dir).read path
          pure (texts.insert path text)) texts)
        replay
        (texts.insertAll (paths.filterMap fun file : Text =>
          (replay.bench.tree.text? (dir.under (.ofText file))).map fun text => (file, text)))
        (paths.map .read) replay
  | [], texts, _ => Runs.pure texts replay
  | file :: paths, texts, h => by
      rw [List.forall_mem_cons] at h
      obtain ⟨text, htext⟩ := Option.isSome_iff_exists.mp h.1
      have hread : Play.on ((host dir).read file) replay = (.ok text, replay) :=
        @on_read (fun _ => none) dir replay file text htext
      have hrest := runs_readEach replay paths (texts.insert file text) h.2
      rw [List.filterMap_cons_some (by rw [htext]; rfl), List.foldlM_cons, List.foldlM_cons,
        bind_assoc, bind_assoc]
      refine Runs.bind (Runs.entered (.read file) hread) ?_
      rw [pure_bind, pure_bind]
      exact hrest

/-- **Every file is read once**, in the order in which the files are supplied. -/
lemma runs_readAll {replay : Replay}
    (h : ∀ file ∈ files, (replay.bench.tree.text? (dir.under (.ofText file))).isSome) :
    Runs (readAll (host dir).logged files) (readAll (host dir) files) replay
      (onDisk dir files replay.bench.tree) (files.eraseDups.map .read) replay :=
  runs_readEach replay files.eraseDups .empty fun file hfile => h file (List.mem_eraseDups.mp hfile)

lemma on_read_of_none {replay : Replay} {file : Text}
    (h : replay.bench.tree.text? (dir.under (.ofText file)) = none) :
    ∃ fault, Play.on ((host dir).read file) replay = (.error fault, replay) := by
  set run := Run.readText (dir.under (.ofText file))
  have hread : Play.on ((host dir).read file) replay
      = ((run.on replay.bench).1, { replay with bench := (run.on replay.bench).2 }) :=
    Play.on_onBench run replay
  have htriple := readText_triple (dir.under (.ofText file)) replay.bench replay.bench rfl
  rw [hread]
  rcases hon : run.on replay.bench with ⟨result, bench⟩
  rw [hon] at htriple
  cases result with
  | ok text =>
      have htext := FileTree.text?_eq_some_iff.mpr htriple.2
      rw [h] at htext
      cases htext
  | error fault =>
      obtain rfl : bench = replay.bench := htriple
      exact ⟨fault, rfl⟩

/-- A file that cannot be read ends a run before anything has been done. -/
lemma on_readAll_of_none {replay : Replay} {file : Text} (hfile : file ∈ files)
    (h : replay.bench.tree.text? (dir.under (.ofText file)) = none) :
    ∃ fault, Play.on (readAll (host dir) files) replay = (.error fault, replay) := by
  have hloop : ∀ (paths : List Text) (texts : Table Text Text), file ∈ paths →
      ∃ fault, Play.on (paths.foldlM (fun texts path => do
          let text ← (host dir).read path
          pure (texts.insert path text)) texts) replay = (.error fault, replay) := by
    intro paths
    induction paths with
    | nil => exact fun _ hnil => absurd hnil List.not_mem_nil
    | cons path paths ih =>
        intro texts hpaths
        rw [List.foldlM_cons, bind_assoc]
        cases hpath : replay.bench.tree.text? (dir.under (.ofText path)) with
        | none =>
            obtain ⟨fault, hread⟩ := on_read_of_none hpath
            exact ⟨fault, Play.on_bind_error hread _⟩
        | some text =>
            have hread : Play.on ((host dir).read path) replay = (.ok text, replay) :=
              @on_read (fun _ => none) dir replay path text hpath
            rw [Play.on_bind_ok hread, pure_bind]
            refine ih _ ((List.mem_cons.mp hpaths).resolve_left ?_)
            rintro rfl
            rw [h] at hpath
            cases hpath
  exact hloop files.eraseDups .empty (List.mem_eraseDups.mpr hfile)

/-- Writes texts to files below a directory, one after the other. -/
def writeEach (dir : Path) (entries : List (Text × Text)) (tree : FileTree) :
    Except FileError FileTree :=
  entries.foldlM (fun tree e => tree.write (dir.under (.ofText e.1)) (.text e.2)) tree

/-- **Every text is written once**, in the order of the table. -/
lemma runs_writeEach : ∀ (entries : List (Text × Text)) (replay : Replay),
    (∀ e ∈ entries, (replay.bench.tree.text? (dir.under (.ofText e.1))).isSome) →
      ∃ tree, writeEach dir entries replay.bench.tree = .ok tree ∧
        Runs (entries.forM fun (file, text) => (host dir).logged.write file text)
          (entries.forM fun (file, text) => (host dir).write file text) replay ()
          (entries.map fun e => .write e.1 e.2)
          { replay with bench := { replay.bench with tree } }
  | [], replay, _ => ⟨replay.bench.tree, rfl, Runs.pure () replay⟩
  | (file, text) :: entries, replay, h => by
      rw [List.forall_mem_cons] at h
      obtain ⟨tree, hwrite, hothers⟩ := FileTree.write_of_isSome_text? h.1 text
      have hfirst : Play.on ((host dir).write file text) replay
          = (.ok (), { replay with bench := { replay.bench with tree } }) := by
        show Play.on (onBench (Run.writeText _ _)) _ = _
        rw [Play.on_onBench, Run.on_writeText, hwrite]
      have hreadable : ∀ e ∈ entries, (tree.text? (dir.under (.ofText e.1))).isSome := by
        intro e he
        obtain ⟨-, hsame, helse⟩ := hothers _ (h.2 e he)
        by_cases hloc : replay.bench.tree.locate (dir.under (.ofText e.1))
            = replay.bench.tree.locate (dir.under (.ofText file))
        · rw [hsame hloc]
          rfl
        · rw [helse hloc]
          exact h.2 e he
      obtain ⟨tree', hrest, hruns⟩ := runs_writeEach entries
        { replay with bench := { replay.bench with tree } } hreadable
      refine ⟨tree', ?_, ?_⟩
      · rw [writeEach, List.foldlM_cons, hwrite]
        exact hrest
      · exact Runs.bind (Runs.entered (.write file text) hfirst) hruns

/-! ## Rounds -/

lemma runs_notices (dir : Path) : ∀ (notices : List Notice) (replay : Replay),
    ∃ bench, bench.tree = replay.bench.tree ∧
      Runs (notices.forM (host dir).logged.note) (notices.forM (host dir).note) replay () []
        { replay with bench }
  | [], replay => ⟨replay.bench, rfl, Runs.pure () replay⟩
  | notice :: notices, replay => by
      set noted : Workbench :=
        { replay.bench with transcript := replay.bench.transcript ++ [.note notice] }
      have hfirst : Play.on ((host dir).note notice) replay
          = (.ok (), { replay with bench := noted }) := rfl
      obtain ⟨bench, htree, hrest⟩ := runs_notices dir notices { replay with bench := noted }
      exact ⟨bench, htree, Runs.bind (Runs.lift hfirst) hrest⟩

/-- **The rounds have been made**: so many questions were asked, and some of them were followed by a
round that changed files. -/
structure Made (files : List Text) (asked : Nat) (results : List FixResult)
    (replay after : Replay) : Prop where
  tree_eq : after.bench.tree = replay.bench.tree
  outputs_eq : after.outputs = replay.outputs.drop asked
  questions_eq : after.questions = replay.questions ++ List.replicate asked files
  rounds_eq : after.rounds = replay.rounds ++ results.map FixResult.files

/-- What is handed over after a question. -/
def handedOver : Verdict → List Deed
  | .stop => []
  | .changed changed => [.round changed]

/-- **One round**: it asks, and hands over what it changed. -/
lemma runs_round (dir : Path) (files : List Text) {p p' : Progress} {replay : Replay}
    {notices : List Notice} {verdict : Verdict}
    (hadvance : p.advance replay.outputs.head?.join = (p', notices, verdict)) :
    ∃ middle, Made files 1 [] replay middle ∧
      Runs (round (host dir).logged files p) (round (host dir) files p) replay (p', verdict)
        (.ask files :: handedOver verdict) (middle.keepVerdict verdict) := by
  have hask : Play.on ((host dir).diagnose files) replay
      = (.ok replay.outputs.head?.join, (replay.answer files).2) := rfl
  obtain ⟨bench, htree, hnotices⟩ := runs_notices dir notices (replay.answer files).2
  refine ⟨{ (replay.answer files).2 with bench }, ⟨htree, ?_, rfl, ?_⟩, ?_⟩
  · exact List.drop_one.symm
  · exact (List.append_nil _).symm
  · refine Runs.bind (Runs.entered (.ask files) hask) ?_
    rw [hadvance]
    cases verdict with
    | stop => exact Runs.bind hnotices (Runs.pure _ _)
    | changed changed =>
        have hround : ∀ middle, Play.on ((host dir).onRound changed) middle
            = (.ok (), middle.keepRound changed) := fun _ => rfl
        refine Runs.bind hnotices ?_
        exact Runs.bind (Runs.entered (.round changed) (hround _)) (Runs.pure _ _)

lemma Made.changed {asked : Nat} {results : List FixResult} {r : FixResult}
    {replay middle after : Replay} (h : Made files 1 [] replay middle)
    (hrest : Made files asked results (middle.keepRound r.files) after) :
    Made files (asked + 1) (r :: results) replay after where
  tree_eq := hrest.tree_eq.trans h.tree_eq
  outputs_eq := by
    rw [hrest.outputs_eq, Nat.add_comm, ← List.drop_drop, ← h.outputs_eq]
    rfl
  questions_eq := by
    rw [hrest.questions_eq, List.replicate_succ, ← List.singleton_append, ← List.append_assoc]
    exact congrArg (· ++ _) h.questions_eq
  rounds_eq := by
    have hrounds : (middle.keepRound r.files).rounds = replay.rounds ++ [r.files] := by
      rw [keepRound, h.rounds_eq, List.map_nil, List.append_nil]
    rw [hrest.rounds_eq, hrounds, List.append_assoc]
    rfl

/-- **Questions and rounds are in step.**  Every round that changed files comes after a question, at
most one question has none, and if every question has one, then the limit has been reached. -/
structure InStep (limit asked rounds : Nat) : Prop where
  rounds_le : rounds ≤ asked
  asked_le_limit : asked ≤ limit
  asked_le_succ : asked ≤ rounds + 1
  limit_of_eq : asked = rounds → asked = limit

lemma InStep.succ {limit asked rounds : Nat} (h : InStep limit asked rounds) :
    InStep (limit + 1) (asked + 1) (rounds + 1) where
  rounds_le := Nat.succ_le_succ h.rounds_le
  asked_le_limit := Nat.succ_le_succ h.asked_le_limit
  asked_le_succ := Nat.succ_le_succ h.asked_le_succ
  limit_of_eq := fun heq => congrArg Nat.succ (h.limit_of_eq (Nat.succ.inj heq))

/-- What is done in the rounds: each question is followed by what was changed after it, but for a
last one after which nothing was. -/
def roundDeeds (files : List Text) (asked : Nat) (results : List FixResult) : List Deed :=
  results.flatMap (fun r => [.ask files, .round r.files]) ++
    List.replicate (asked - results.length) (.ask files)

lemma roundDeeds_cons (files : List Text) (asked : Nat) (r : FixResult)
    (results : List FixResult) :
    roundDeeds files (asked + 1) (r :: results)
      = [.ask files, .round r.files] ++ roundDeeds files asked results := by
  rw [roundDeeds, roundDeeds, List.flatMap_cons, List.length_cons, Nat.add_sub_add_right,
    List.append_assoc]

/-- **All rounds**, as many as the limit lets be made. -/
lemma runs_drive (dir : Path) (files : List Text) :
    ∀ (limit : Nat) (p : Progress) (replay : Replay), ∃ p' after asked results,
      Runs (drive (host dir).logged files limit p) (drive (host dir) files limit p) replay p'
        (roundDeeds files asked results) after ∧
      InStep limit asked results.length ∧ Made files asked results replay after ∧
      p.Entered results p' ∧ Passes p.session.registry p.current replay.outputs results
  | 0, p, replay =>
      ⟨p, replay, 0, [], Runs.pure p replay, ⟨Nat.le_refl 0, Nat.le_refl 0, Nat.zero_le _, id⟩,
        ⟨rfl, rfl, (List.append_nil _).symm, (List.append_nil _).symm⟩, ⟨rfl, rfl, rfl, rfl⟩,
        Passes.none _ _⟩
  | limit + 1, p, replay => by
      rw [drive_succ, drive_succ]
      rcases p.advance_entered replay.outputs.head?.join with
        ⟨p', notices, hadvance, hentered⟩ | ⟨p', notices, r, hadvance, houtput, hfix, hentered⟩
      · -- The only question has no round.
        obtain ⟨middle, hmade, hround⟩ := runs_round dir files hadvance
        have hstep : InStep (limit + 1) 1 0 :=
          ⟨Nat.zero_le 1, Nat.succ_pos limit, Nat.le_refl 1, fun h => by cases h⟩
        refine ⟨p', middle, 1, [], ?_, hstep, hmade, hentered, Passes.none _ _⟩
        show Runs _ _ _ _ ([.ask files] ++ []) _
        exact Runs.bind hround (Runs.pure p' middle)
      · obtain ⟨middle, hmade, hround⟩ := runs_round dir files hadvance
        obtain ⟨p'', after, asked, results, hruns, hstep, hmade', hentered', hpasses⟩ :=
          runs_drive dir files limit p' (middle.keepRound r.files)
        refine ⟨p'', after, asked + 1, r :: results, ?_, hstep.succ, hmade.changed hmade',
          hentered.cons hentered', ?_⟩
        · rw [roundDeeds_cons]
          exact Runs.bind hround hruns
        · rw [hentered.registry_eq, hentered.current_eq] at hpasses
          have houtputs : (middle.keepRound r.files).outputs = replay.outputs.tail :=
            hmade.outputs_eq.trans List.drop_one
          rw [houtputs] at hpasses
          cases hreplies : replay.outputs with
          | nil => exact absurd (by rw [hreplies]; rfl) houtput
          | cons output outputs =>
              rw [hreplies] at hpasses hfix
              exact Passes.cons hfix hpasses

/-! ## Whole runs -/

/-- **A summary accounts for rounds** with these results, on texts that were there before. -/
structure Sums (before : Table Text Text) (results : List FixResult) (summary : Summary) :
    Prop where
  rounds_eq : summary.rounds = results.length
  keys_subset : summary.files.keys ⊆ before.keys
  get?_files : ∀ file text, summary.files.get? file = some text ↔
    textAfter before (results.map FixResult.files) file = some text ∧
      before.get? file ≠ some text
  count_counts : ∀ code,
    summary.counts.count code = (results.map fun r => r.counts.count code).sum
  mem_counts : ∀ code, code ∈ summary.counts.keys ↔ ∃ r ∈ results, code ∈ r.counts.keys

/-- What comes of the rounds: nothing, if every text is as it was. -/
lemma summary?_sums {registry : Registry} {before : Table Text Text} {results : List FixResult}
    {p : Progress} (h : (Progress.start registry before).Entered results p)
    (hkeys : p.current.keys = before.keys) :
    (p.summary? before = none ↔ ∀ file ∈ before.keys,
        textAfter before (results.map FixResult.files) file = before.get? file) ∧
      ∀ summary, p.summary? before = some summary → Sums before results summary := by
  set changed := p.current.filter fun e => before.get? e.1 ≠ some e.2
  have hcurrent : ∀ file, p.current.get? file
      = textAfter before (results.map FixResult.files) file := by
    intro file
    rw [h.current_eq]
    exact get?_enterAll file results before
  have hsubset : changed.keys ⊆ before.keys := by
    rw [← hkeys]
    exact List.map_subset _ (List.filter_subset_self _)
  have hempty : changed.isEmpty = true ↔ ∀ file ∈ before.keys,
      textAfter before (results.map FixResult.files) file = before.get? file := by
    simp only [← hcurrent]
    exact Table.isEmpty_filter_ne_iff hkeys
  have hsummary : p.summary? before = if changed.isEmpty then none else
    some { files := changed, counts := p.totals, rounds := p.rounds, warnings := p.warnings } := rfl
  rw [hsummary, ← hempty]
  by_cases hunchanged : changed.isEmpty = true
  · simp [hunchanged]
  · rw [if_neg hunchanged]
    refine ⟨by simp [hunchanged], ?_⟩
    rintro summary hsome
    cases hsome
    have htotals : p.totals = Counts.total (results.map FixResult.counts) := h.totals_eq
    refine ⟨h.rounds_eq.trans (Nat.zero_add _), hsubset, fun file text => ?_, fun code => ?_,
      fun code => ?_⟩
    · rw [← hcurrent]
      exact Table.get?_filter_ne
    · rw [htotals, Counts.count_total, List.map_map]
      rfl
    · simp [htotals, Counts.mem_keys_total]

/-- **The account of a run**, which has asked so many questions and made rounds with these
results. -/
structure Account (dir : Path) (registry : Registry) (files : List Text) (limit : Nat)
    (write : Bool) (replay after : Replay) (outcome : Option Summary) (deeds : List Deed)
    (asked : Nat) (results : List FixResult) : Prop where
  readable : ∀ file ∈ files, (replay.bench.tree.text? (dir.under (.ofText file))).isSome
  in_step : InStep limit asked results.length
  passes : Passes registry (onDisk dir files replay.bench.tree) replay.outputs results
  changed : ∀ r ∈ results, r.files.entries ≠ [] ∧ r.files.keys ⊆ files
  questions_eq : after.questions = replay.questions ++ List.replicate asked files
  rounds_eq : after.rounds = replay.rounds ++ results.map FixResult.files
  /-- Everything is read before the first question, and nothing is written before the last. -/
  deeds_eq : deeds = files.eraseDups.map .read ++ roundDeeds files asked results ++
    (written write outcome).map fun e => .write e.1 e.2
  outcome_eq_none_iff : outcome = none ↔ ∀ file ∈ files,
    textAfter (onDisk dir files replay.bench.tree) (results.map FixResult.files) file
      = (onDisk dir files replay.bench.tree).get? file
  sums : ∀ summary, outcome = some summary →
    Sums (onDisk dir files replay.bench.tree) results summary
  tree_eq : writeEach dir (written write outcome) replay.bench.tree = .ok after.bench.tree

/-- **A run that can read its files accounts for its rounds.** -/
lemma runs_autofix (registry : Registry) {replay : Replay}
    (h : ∀ file ∈ files, (replay.bench.tree.text? (dir.under (.ofText file))).isSome)
    (limit : Nat) (write : Bool) : ∃ outcome deeds after asked results,
      Runs (autofix (host dir).logged registry files limit write)
        (autofix (host dir) registry files limit write) replay outcome deeds after ∧
      Account dir registry files limit write replay after outcome deeds asked results := by
  set before := onDisk dir files replay.bench.tree with hbefore
  obtain ⟨p, middle, asked, results, hdrive, hstep, hmade, hentered, hpasses⟩ :=
    runs_drive dir files limit (.start registry before) replay
  have hkeys : ∀ file, file ∈ before.keys ↔ file ∈ files := fun file => mem_keys_onDisk h
  have hchanged := Passes.changed hpasses
  have hcurrent : p.current.keys = before.keys := by
    rw [hentered.current_eq]
    exact keys_enterAll results _ fun r hr => (hchanged r hr).2
  obtain ⟨hnone, hsums⟩ := summary?_sums hentered hcurrent
  have hreadable : ∀ e ∈ written write (p.summary? before),
      (middle.bench.tree.text? (dir.under (.ofText e.1))).isSome := by
    intro e he
    obtain ⟨summary, hsome, hkey⟩ := mem_written he
    rw [hmade.tree_eq]
    exact h e.1 ((hkeys e.1).mp ((hsums summary hsome).keys_subset hkey))
  obtain ⟨tree, hwritten, hwrites⟩ := runs_writeEach _ middle hreadable
  refine ⟨p.summary? before, files.eraseDups.map .read ++ (roundDeeds files asked results ++
    (written write (p.summary? before)).map fun e => .write e.1 e.2),
    { middle with bench := { middle.bench with tree } }, asked, results, ?_, h, hstep, hpasses, ?_,
    hmade.questions_eq, hmade.rounds_eq, (List.append_assoc _ _ _).symm, ?_, hsums, ?_⟩
  · rw [autofix_eq, autofix_eq]
    refine Runs.bind (runs_readAll h) (Runs.bind hdrive ?_)
    exact hwrites.bind_pure fun _ => p.summary? before
  · intro r hr
    obtain ⟨hnonempty, hsubset⟩ := hchanged r hr
    exact ⟨hnonempty, fun file hfile => (hkeys file).mp (hsubset hfile)⟩
  · simp only [hnone, hkeys]
    rfl
  · rw [← hmade.tree_eq]
    exact hwritten

/-! ## Runs that hand nothing over -/

/-- What the rounds see when nobody asks for their results. -/
def unobserved (dir : Path) : Host Play := { host dir with onRound := fun _ => pure () }

/-- The replay without what has been kept of its rounds. -/
def unkept (replay : Replay) : Replay := { replay with rounds := [] }

/-- The second computation does what the first does, but for what is kept of the rounds. -/
def Mirrors {α : Type} (x y : Play α) : Prop :=
  ∀ replay, y.on replay.unkept = ((x.on replay).1, (x.on replay).2.unkept)

namespace Mirrors

variable {α β : Type}

protected lemma pure (a : α) : Mirrors (pure a) (pure a) := fun _ => rfl

protected lemma bind {x y : Play α} {f g : α → Play β} (h : Mirrors x y)
    (hnext : ∀ a, Mirrors (f a) (g a)) : Mirrors (x >>= f) (y >>= g) := by
  intro replay
  have hy := h replay
  rcases hx : x.on replay with ⟨result, after⟩
  rw [hx] at hy
  cases result with
  | error fault => rw [Play.on_bind_error hx, Play.on_bind_error hy]
  | ok a => rw [Play.on_bind_ok hx, Play.on_bind_ok hy, hnext a after]

protected lemma onBench (run : Run α) : Mirrors (onBench run) (onBench run) := by
  intro replay
  rw [Play.on_onBench, Play.on_onBench]
  rfl

protected lemma forM {f g : α → Play Unit} (h : ∀ a, Mirrors (f a) (g a)) : ∀ l : List α,
    Mirrors (l.forM f) (l.forM g)
  | [] => Mirrors.pure ()
  | a :: l => Mirrors.bind (h a) fun _ => Mirrors.forM h l

protected lemma foldlM {f g : β → α → Play β} (h : ∀ b a, Mirrors (f b a) (g b a)) :
    ∀ (l : List α) (b : β), Mirrors (l.foldlM f b) (l.foldlM g b)
  | [], b => Mirrors.pure b
  | a :: l, b => Mirrors.bind (h b a) fun b' => Mirrors.foldlM h l b'

end Mirrors

section

variable (dir : Path) (files : List Text)

lemma mirrors_read (file : Text) : Mirrors ((host dir).read file) ((unobserved dir).read file) :=
  Mirrors.onBench (Run.readText (dir.under (.ofText file)))

lemma mirrors_write (file text : Text) :
    Mirrors ((host dir).write file text) ((unobserved dir).write file text) :=
  Mirrors.onBench (Run.writeText (dir.under (.ofText file)) text)

lemma mirrors_note (notice : Notice) :
    Mirrors ((host dir).note notice) ((unobserved dir).note notice) :=
  Mirrors.onBench (Run.note notice)

lemma mirrors_diagnose :
    Mirrors ((host dir).diagnose files) ((unobserved dir).diagnose files) := fun _ => rfl

lemma mirrors_onRound (changed : Table Text Text) :
    Mirrors ((host dir).onRound changed) ((unobserved dir).onRound changed) := fun _ => rfl

lemma mirrors_round (p : Progress) :
    Mirrors (round (host dir) files p) (round (unobserved dir) files p) := by
  refine Mirrors.bind (mirrors_diagnose dir files) fun output => ?_
  rcases p.advance output with ⟨p', notices, verdict⟩
  refine Mirrors.bind (Mirrors.forM (mirrors_note dir) notices) fun _ => ?_
  cases verdict with
  | stop => exact Mirrors.pure _
  | changed changed => exact Mirrors.bind (mirrors_onRound dir changed) fun _ => Mirrors.pure _

lemma mirrors_drive : ∀ (limit : Nat) (p : Progress),
    Mirrors (drive (host dir) files limit p) (drive (unobserved dir) files limit p)
  | 0, p => Mirrors.pure p
  | limit + 1, p => by
      rw [drive_succ, drive_succ]
      refine Mirrors.bind (mirrors_round dir files p) fun (p', verdict) => ?_
      cases verdict with
      | stop => exact Mirrors.pure p'
      | changed changed => exact mirrors_drive limit p'

/-- **Nothing depends on whether the results of the rounds are handed over.** -/
lemma mirrors_autofix (registry : Registry) (limit : Nat) (write : Bool) :
    Mirrors (autofix (host dir) registry files limit write)
      (autofix (unobserved dir) registry files limit write) := by
  rw [autofix_eq, autofix_eq]
  have hread : Mirrors (readAll (host dir) files) (readAll (unobserved dir) files) :=
    Mirrors.foldlM (fun _ file => Mirrors.bind (mirrors_read dir file) fun _ => Mirrors.pure _) _ _
  refine Mirrors.bind hread fun before => Mirrors.bind (mirrors_drive dir files limit _) fun p => ?_
  refine Mirrors.bind (Mirrors.forM (fun e => ?_) _) fun _ => Mirrors.pure _
  exact mirrors_write dir e.1 e.2

end

/-! ## Accounts -/

/-- **A run accounts for its rounds**, whatever the compiler says.  If a file cannot be read, it fails
before it has done anything.  Otherwise it ends with an account: it asks at most ten times and no
more often than requested, every round hands over what it changed, nothing is written before that is
over, and the outcome and what is written follow from the results of the rounds.  With nobody to hand
them over to, it all comes to the same. -/
theorem run_accounts (dir : Path) (registry : Registry) (files : List Text) (requested : Int)
    (write : Bool) (replay : Replay) (hrequested : 1 ≤ requested) :
    let limit := min requested.toNat 10
    let run := replay.run dir registry files requested write
    Play.on (autofix (unobserved dir) registry files limit write) replay.unkept
        = (run.1, run.2.unkept) ∧
    ((∃ file ∈ files, replay.bench.tree.text? (dir.under (.ofText file)) = none) ∧
        (∃ fault, run = (.error fault, replay)) ∨
      ∃ outcome deeds after asked results,
        run = (.ok outcome, after) ∧
        Play.on ((autofix (host dir).logged registry files limit write).run []) replay
          = (.ok (outcome, deeds), after) ∧
        Account dir registry files limit write replay after outcome deeds asked results) := by
  intro limit run
  have hlimit : roundLimit? requested = some limit := if_neg (by omega)
  have hrun : run = Play.on (autofix (host dir) registry files limit write) replay := by
    show Replay.run _ _ _ _ _ _ = _
    rw [Replay.run, play, hlimit]
    rfl
  rw [hrun]
  refine ⟨mirrors_autofix dir files registry limit write replay, ?_⟩
  by_cases hreadable :
      ∀ file ∈ files, (replay.bench.tree.text? (dir.under (.ofText file))).isSome
  · obtain ⟨outcome, deeds, after, asked, results, hruns, haccount⟩ :=
      runs_autofix registry hreadable limit write
    exact .inr ⟨outcome, deeds, after, asked, results, hruns.plain_on, hruns.logged_on [], haccount⟩
  · obtain ⟨file, hfile, hsome⟩ : ∃ file ∈ files,
        ¬ (replay.bench.tree.text? (dir.under (.ofText file))).isSome := by
      simpa using hreadable
    have hnone := Option.not_isSome_iff_eq_none.mp hsome
    obtain ⟨fault, hread⟩ := on_readAll_of_none hfile hnone
    exact .inl ⟨⟨file, hfile, hnone⟩, fault, Play.on_bind_error hread _⟩

/-- Two files; the first is changed twice, and then there is only a warning without a rule. -/
def exampleReplay : Replay where
  bench := { tree := exampleTree }
  outputs := [some "a.mo:1.4-1.7: warning [M0223], redundant",
    some "a.mo:1.1-1.7: warning [M0236], dot notation",
    some "b.mo:1.1-1.2: warning [M0194], unused"]

def exampleReplayed : Except Fault (Option Summary) × Replay :=
  exampleReplay.run (.ofText "/") .standard ["a.mo", "b.mo"] 12 true

theorem run_accounts_twoRounds : ∃ summary deeds results,
    exampleReplayed.1 = .ok (some summary) ∧ summary.rounds = 2 ∧
      summary.files = .ofList [("a.mo", "x.f()")] ∧
      Account (.ofText "/") .standard ["a.mo", "b.mo"] 10 true exampleReplay exampleReplayed.2
        (some summary) deeds 3 results := by
  have hfacts : exampleReplayed.1.toOption.join.map Summary.rounds = some 2 ∧
      exampleReplayed.1.toOption.join.map Summary.files = some (.ofList [("a.mo", "x.f()")]) ∧
      exampleReplayed.2.questions.length = 3 := by decide +kernel
  obtain ⟨hrounds, hfiles, hquestions⟩ := hfacts
  obtain ⟨-, hcases⟩ := run_accounts (.ofText "/") .standard ["a.mo", "b.mo"] 12 true exampleReplay
    (by decide)
  rcases hcases with ⟨-, fault, hrun⟩ |
    ⟨outcome, deeds, after, asked, results, hrun, -, haccount⟩
  · have herror : exampleReplayed = (.error fault, exampleReplay) := hrun
    rw [herror] at hrounds
    cases hrounds
  · have hok : exampleReplayed = (.ok outcome, after) := hrun
    rw [hok] at hrounds hfiles hquestions ⊢
    cases outcome with
    | none => cases hrounds
    | some summary =>
        have hasked : asked = 3 := by
          have hlength := congrArg List.length haccount.questions_eq
          simpa [hquestions, exampleReplay] using hlength.symm
        subst hasked
        exact ⟨summary, deeds, results, rfl, Option.some.inj hrounds, Option.some.inj hfiles,
          haccount⟩

end Replay

end Amend
