import Amend.CommandLine.Commands
import Amend.Proofs.Staging

/-!
# The rounds of a run

`drive` asks the compiler, fixes and stages until a round changes nothing.  Here one round is taken
apart, and then all of them:

* `readAll_triple`: what has been read is what the files hold, and every file has been read.
* `Progress.advance_cases`: a round enters the changed texts among the present ones, and changes
  supplied files only.
* `round` is one round, with what comes of it, and `drive_succ` says that `drive` makes rounds.
  `round_staged` is the invariant of a round: the shadows hold the present texts.  `round_asks` says
  with which commands and which contents the compiler has been started in it.
* `Rounds` are several rounds that changed files, with a list of what each of them changed.
  `Rounds.get?_current` reads the present text of a file out of that list.
-/

namespace Amend

open Run (Triple Keeps OnlyPrints)

/-! ## Entering one table in another -/

namespace Table

variable {κ α : Type} [DecidableEq κ]

lemma mem_keys_insert {t : Table κ α} {k k' : κ} {v : α} :
    k' ∈ (t.insert k v).keys ↔ k' ∈ t.keys ∨ k' = k := by
  rw [keys_insert]
  split
  · next hk => exact ⟨.inl, fun h => h.elim id fun heq => heq ▸ hk⟩
  · simp

lemma find?_of_not_mem {es : List (κ × α)} {k : κ} (h : k ∉ es.map Prod.fst) :
    es.find? (fun e => e.1 = k) = none := by
  rw [List.find?_eq_none]
  intro e he heq
  exact h (List.mem_map.mpr ⟨e, he, of_decide_eq_true heq⟩)

lemma get?_insertAll_list (k : κ) : ∀ (es : List (κ × α)) (t : Table κ α),
    (es.map Prod.fst).Nodup → (t.insertAll es).get? k
      = ((es.find? fun e => e.1 = k).map Prod.snd).or (t.get? k)
  | [], t, _ => by simp [insertAll]
  | e :: es, t, hnodup => by
      rw [List.map_cons, List.nodup_cons] at hnodup
      have hrest := get?_insertAll_list k es (t.insert e.1 e.2) hnodup.2
      rw [show t.insertAll (e :: es) = (t.insert e.1 e.2).insertAll es from rfl, hrest,
        get?_insert]
      by_cases hk : e.1 = k
      · -- The key does not come again, so its value stays.
        have hnone := find?_of_not_mem (hk ▸ hnodup.1)
        simp [hk, hnone]
      · simp [hk, Ne.symm hk]

/-- The entered values count, and where there is none the value from before. -/
lemma get?_insertAll (t s : Table κ α) (k : κ) :
    (t.insertAll s.entries).get? k = (s.get? k).or (t.get? k) :=
  get?_insertAll_list k s.entries t s.nodup

lemma mem_keys_insertAll {k : κ} : ∀ {es : List (κ × α)} {t : Table κ α},
    k ∈ (t.insertAll es).keys ↔ k ∈ t.keys ∨ k ∈ es.map Prod.fst
  | [], t => by simp [insertAll]
  | e :: es, t => by
      have hrest : k ∈ ((t.insert e.1 e.2).insertAll es).keys ↔ _ := mem_keys_insertAll
      rw [show t.insertAll (e :: es) = (t.insert e.1 e.2).insertAll es from rfl, hrest,
        mem_keys_insert, List.map_cons, List.mem_cons, or_assoc]

lemma keys_insertAll_subset {ks : List κ} (es : List (κ × α)) (t : Table κ α)
    (hes : es.map Prod.fst ⊆ ks) (ht : t.keys ⊆ ks) : (t.insertAll es).keys ⊆ ks :=
  fun _ hk => (mem_keys_insertAll.mp hk).elim (fun h => ht h) fun h => hes h

end Table

/-! ## Reading -/

/-- The texts of a table are those of the files in a tree. -/
def ReadFrom (dir : Path) (tree : FileTree) (texts : Table Text Text) : Prop :=
  ∀ file text, texts.get? file = some text →
    ∃ content, tree.read (dir.under (.ofText file)) = .ok content ∧ content.toText = .ok text

lemma ReadFrom.empty (dir : Path) (tree : FileTree) : ReadFrom dir tree .empty := by
  simp [ReadFrom]

lemma ReadFrom.insert {dir : Path} {tree : FileTree} {texts : Table Text Text} {path text : Text}
    {content : Content} (h : ReadFrom dir tree texts)
    (hcontent : tree.read (dir.under (.ofText path)) = .ok content)
    (htext : content.toText = .ok text) : ReadFrom dir tree (texts.insert path text) := by
  intro file t hget
  rw [Table.get?_insert] at hget
  split at hget
  · next hfile =>
    cases hget
    exact ⟨content, hfile ▸ hcontent, htext⟩
  · exact h file t hget

lemma readText_triple (p : Path) (bench : Workbench) :
    Triple (· = bench) (Run.readText p)
      (fun text after => after = bench ∧
        ∃ content, bench.tree.read p = .ok content ∧ content.toText = .ok text) (· = bench) := by
  intro start hstart
  rw [hstart, Run.readText, Run.on_bind_ok (Run.on_get _), Run.on_bind, Run.on_ofFile]
  cases hread : bench.tree.read p with
  | error e => rfl
  | ok content =>
      cases htext : content.toText with
      | error e => simp only [Except.mapError, htext]; rfl
      | ok text => simp only [Except.mapError, htext]; exact ⟨rfl, content, rfl, htext⟩

section

variable {host : Host Run} {dir : Path}
  (hhost : ∀ file, host.read file = Run.readText (dir.under (.ofText file)))

include hhost

/-- The loop of `readAll`, from the texts that have been read already. -/
lemma readEach_triple (bench : Workbench) : ∀ (paths : List Text) (texts : Table Text Text),
    ReadFrom dir bench.tree texts →
      Triple (· = bench)
        (paths.foldlM (fun files path => do
          let text ← host.read path
          pure (files.insert path text)) texts)
        (fun all after => after = bench ∧ ReadFrom dir bench.tree all ∧
          ∀ file, file ∈ all.keys ↔ file ∈ texts.keys ∨ file ∈ paths)
        (· = bench)
  | [], texts, htexts => Triple.pure fun after hafter => ⟨hafter, htexts, by simp⟩
  | path :: paths, texts, htexts => by
      rw [List.foldlM_cons, hhost, bind_assoc]
      refine Triple.bind (readText_triple _ bench) fun text => ?_
      rw [pure_bind]
      rintro start ⟨hstart, content, hcontent, htext⟩
      have hrest := readEach_triple bench paths _ (htexts.insert hcontent htext)
      refine hrest.mono_post ?_ start hstart
      rintro all after ⟨hafter, hread, hkeys⟩
      refine ⟨hafter, hread, fun file => ?_⟩
      rw [hkeys, Table.mem_keys_insert, List.mem_cons, or_assoc]

/-- **What has been read.**  Reading changes nothing, each file gives its own text, and each file is
read. -/
lemma readAll_triple (bench : Workbench) (paths : List Text) :
    Triple (· = bench) (readAll host paths)
      (fun texts after => after = bench ∧ ReadFrom dir bench.tree texts ∧
        ∀ file, file ∈ texts.keys ↔ file ∈ paths)
      (· = bench) := by
  refine (readEach_triple hhost bench paths.eraseDups .empty (.empty _ _)).mono_post ?_
  rintro texts after ⟨hafter, hread, hkeys⟩
  exact ⟨hafter, hread, fun file => by simp [hkeys, List.mem_eraseDups]⟩

/-- Nothing has been staged yet when all files have been read. -/
lemma readAll_staged (bench : Workbench) (hshadows : bench.shadows = .empty) (paths : List Text) :
    Triple (· = bench) (readAll host paths)
      (fun before after => Shadow.Staged dir bench.tree before before after ∧
        ReadFrom dir bench.tree before ∧ ∀ file, file ∈ before.keys ↔ file ∈ paths)
      (Shadow.InUse dir bench.tree) := by
  have hstart : ∀ before, Shadow.Staged dir bench.tree before before bench :=
    fun before => Shadow.Staged.start dir before bench hshadows
  refine (readAll_triple hhost bench paths).mono ?_ ?_
  · rintro before after ⟨rfl, hread⟩
    exact ⟨hstart before, hread⟩
  · rintro after rfl
    exact (hstart .empty).inUse

end

/-! ## One round -/

lemma FileKey.mem_of_find? {keys : List Text} {reported key : Text}
    (h : FileKey.find? keys reported = some key) : key ∈ keys := by
  unfold FileKey.find? at h
  split at h
  · next hmem =>
    cases h
    exact List.contains_iff_mem.mp hmem
  · exact List.mem_of_find?_eq_some h

namespace Pass

/-- A pass changes only files that were supplied. -/
lemma keys_changed_subset (reg : Registry) (files : Table Text Text) :
    ∀ (groups : List (Text × List Diagnostic)) (pass : Pass), pass.changed.keys ⊆ files.keys →
      (groups.foldl (step reg files) pass).changed.keys ⊆ files.keys
  | [], _, hpass => hpass
  | group :: groups, pass, hpass => by
      refine keys_changed_subset reg files groups _ ?_
      unfold step
      split
      · exact hpass
      · next key hkey =>
        simp only
        split
        · exact hpass
        · intro k hk
          rcases Table.mem_keys_insert.mp hk with hk | rfl
          · exact hpass hk
          · exact FileKey.mem_of_find? hkey

lemma keys_result_subset {reg : Registry} {files : Table Text Text} {ds : List Diagnostic}
    {r : FixResult} (h : (run reg files ds).result? = some r) : r.files.keys ⊆ files.keys := by
  unfold result? at h
  split at h
  · cases h
  · cases h
    exact keys_changed_subset reg files _ {} (by simp)

end Pass

/-- **What a round comes to.**  A round that ends the rounds leaves the texts as they are; any other
enters the texts of supplied files that it changed. -/
lemma Progress.advance_cases (p : Progress) (output : Option Text) :
    (∃ p' notices, p.advance output = (p', notices, .stop) ∧ p'.current = p.current) ∨
      ∃ p' notices files, p.advance output = (p', notices, .changed files) ∧
        p'.current = p.current.insertAll files.entries ∧ files.keys ⊆ p.current.keys := by
  unfold advance
  split
  · exact .inl ⟨p, _, rfl, rfl⟩
  · cases hfix : p.session.fix p.current output with
    | mk session rest =>
        obtain ⟨result, notices⟩ := rest
        cases result with
        | none => exact .inl ⟨_, _, rfl, rfl⟩
        | some r =>
            have hresult := congrArg (fun f => f.2.1) hfix
            exact .inr ⟨_, _, r.files, rfl, rfl, Pass.keys_result_subset hresult⟩

/-! ## Asking the compiler -/

namespace Compiler

/-- How the compiler is started for a file: on its shadow if it has one. -/
def invocationFor (c : Compiler) (tree : FileTree) (shadows : Table Text Text) (file : Text) :
    Invocation where
  command := c.command (Shadow.pathFor shadows file)
  timeout := c.timeout
  content := c.checkedContent tree (Shadow.pathFor shadows file)

/-- The compiler has been started for some files, one after the other, as a workbench has them. -/
def Started (c : Compiler) (files : List Text) (bench after : Workbench) : Prop :=
  after.invocations = bench.invocations ++ files.map (c.invocationFor bench.tree bench.shadows)

/-- The compiler has been started for some files, and all files and shadows are as they were. -/
structure Asked (c : Compiler) (files : List Text) (bench after : Workbench) : Prop where
  tree_eq : after.tree = bench.tree
  shadows_eq : after.shadows = bench.shadows
  started : c.Started files bench after

namespace Asked

variable {c : Compiler} {files : List Text} {bench after : Workbench}

lemma nil (c : Compiler) (bench : Workbench) : Asked c [] bench bench :=
  ⟨rfl, rfl, (List.append_nil _).symm⟩

end Asked

lemma takeReply_keeps (bench : Workbench) : (takeReply bench).2.tree = bench.tree ∧
    (takeReply bench).2.shadows = bench.shadows ∧
      (takeReply bench).2.invocations = bench.invocations := by
  unfold takeReply
  split <;> exact ⟨rfl, rfl, rfl⟩

section

variable (c : Compiler) (files : List Text) (file : Text) (bench : Workbench)

/-- One more start, whatever comes of it. -/
lemma invoke_triple {failed : Workbench → Prop} :
    Triple (c.Asked files bench) (c.invoke (Shadow.pathFor bench.shadows file))
      (fun _ => c.Asked (files ++ [file]) bench) failed := by
  intro start hstart
  obtain ⟨htree, hshadows, hinvocations⟩ := takeReply_keeps { start with
    invocations := start.invocations ++ [c.invocationFor start.tree bench.shadows file] }
  refine ⟨htree.trans hstart.tree_eq, hshadows.trans hstart.shadows_eq, hinvocations.trans ?_⟩
  have hstarted : start.invocations = _ := hstart.started
  simp only [hstart.tree_eq, hstarted, List.map_append, List.map_cons, List.map_nil,
    List.append_assoc]

lemma check_triple :
    Triple (c.Asked files bench) (c.check (Shadow.pathFor bench.shadows file))
      (fun _ => c.Asked (files ++ [file]) bench) (c.Asked (files ++ [file]) bench) := by
  refine Triple.bind (invoke_triple c files file bench) fun reply => ?_
  cases reply with
  | finished exitCode out err => exact Triple.pure fun _ h => h
  | missing => exact Triple.throw fun _ h => h
  | denied => exact Triple.throw fun _ h => h
  | timedOut => exact Triple.throw fun _ h => h

lemma diagnoseShadowed_triple :
    Triple (c.Asked files bench) (c.diagnoseShadowed file)
      (fun _ => c.Asked (files ++ [file]) bench) (c.Asked (files ++ [file]) bench) := by
  refine Triple.bind Triple.get fun seen => ?_
  rintro start ⟨rfl, hstart⟩
  rw [hstart.shadows_eq]
  refine Triple.bind (check_triple c files file bench) (fun output => ?_) seen hstart
  refine Triple.bind Triple.get fun _ => ?_
  exact Triple.pure fun _ h => h.2

end

/-- The loop of `diagnose`, from the files that have been asked about already. -/
lemma diagnoseEach_triple (c : Compiler) (bench : Workbench) (files : List Text) :
    ∀ rest done : List Text, done ++ rest = files →
      Triple (c.Asked done bench) (rest.mapM c.diagnoseShadowed) (fun _ => c.Asked files bench)
        (fun after => ∃ asked, asked <+: files ∧ c.Asked asked bench after)
  | [], done, hdone => by
      rw [List.append_nil] at hdone
      rw [hdone]
      exact Triple.pure fun _ h => h
  | file :: rest, done, hdone => by
      have hnext : (done ++ [file]) ++ rest = files := by rw [← hdone, List.append_assoc]; rfl
      have hfile := diagnoseShadowed_triple c done file bench
      rw [List.mapM_cons]
      refine Triple.bind (hfile.mono_failed fun _ h => ⟨_, ⟨rest, hnext⟩, h⟩) fun output => ?_
      refine Triple.bind (diagnoseEach_triple c bench files rest _ hnext) fun outputs => ?_
      exact Triple.pure fun _ h => h

/-- **One start for each file, in order.**  A failure comes after the start for some file, and no
file after it is looked at. -/
lemma diagnose_triple (c : Compiler) (bench : Workbench) (files : List Text) :
    Triple (· = bench) (c.diagnose files) (fun _ => c.Asked files bench)
      (fun after => ∃ asked, asked <+: files ∧ c.Asked asked bench after) := by
  have hfirst : ∀ start, start = bench → c.Asked [] bench start := by
    rintro start rfl
    exact Asked.nil c start
  refine Triple.bind ((diagnoseEach_triple c bench files files [] rfl).mono_pre hfirst) fun _ => ?_
  exact Triple.pure fun _ h => h

end Compiler

/-! ## Round by round -/

section

variable {m : Type → Type} [Monad m]

/-- One round: the state afterwards, and what to do next. -/
def round (host : Host m) (paths : List Text) (p : Progress) : m (Progress × Verdict) := do
  let output ← host.diagnose paths
  let (p, notices, verdict) := p.advance output
  notices.forM host.note
  match verdict with
  | .stop => pure (p, .stop)
  | .changed files => do
    host.onRound files
    pure (p, .changed files)

/-- **The rounds are made one by one.** -/
lemma drive_succ [LawfulMonad m] (host : Host m) (paths : List Text) (limit : Nat) (p : Progress) :
    drive host paths (limit + 1) p = round host paths p >>= fun r =>
      match r.2 with
      | .stop => pure r.1
      | .changed _ => drive host paths limit r.1 := by
  rw [drive, round]
  simp only [bind_assoc]
  refine bind_congr fun output => ?_
  rcases p.advance output with ⟨p', notices, verdict⟩
  refine bind_congr fun _ => ?_
  cases verdict <;> simp

end

namespace CommandLine

lemma onlyPrints_notices (c : Compiler) (dir : Path) (verbose : Bool) (notices : List Notice) :
    OnlyPrints (notices.forM (hostOf c dir verbose).note) := by
  refine Keeps.forM (fun notice => ?_) notices
  show OnlyPrints (if _ then Run.note notice else pure ())
  split
  · exact OnlyPrints.emit _
  · exact Keeps.pure _

section

variable (c : Compiler) (dir : Path) (verbose : Bool) (paths : List Text) (p : Progress)

/-- **The invariant of a round.**  If the shadows hold the present texts before a round, they hold
the present texts after it. -/
lemma round_staged (base : FileTree) (before : Table Text Text) :
    Triple (Shadow.Staged dir base before p.current) (round (hostOf c dir verbose) paths p)
      (fun r after => Shadow.Staged dir base before r.1.current after ∧
        r.1.current.keys ⊆ p.current.keys)
      (Shadow.InUse dir base) := by
  have hdiagnose : Triple (Shadow.Staged dir base before p.current)
      ((hostOf c dir verbose).diagnose paths)
      (fun _ => Shadow.Staged dir base before p.current) (Shadow.InUse dir base) := by
    intro start hstart
    refine (c.diagnose_triple start paths).mono ?_ ?_ start rfl
    · exact fun _ after hasked => hstart.congr hasked.tree_eq hasked.shadows_eq
    · rintro after ⟨asked, -, hasked⟩
      exact (hstart.congr hasked.tree_eq hasked.shadows_eq).inUse
  refine Triple.bind hdiagnose fun output => ?_
  have hnotices : ∀ notices : List Notice,
      Triple (Shadow.Staged dir base before p.current)
        (notices.forM (hostOf c dir verbose).note)
        (fun _ => Shadow.Staged dir base before p.current) (Shadow.InUse dir base) := by
    intro notices
    refine ((onlyPrints_notices c dir verbose notices).triple ?_).mono_failed fun _ h => h.inUse
    exact fun _ _ h => h.congr rfl rfl
  rcases p.advance_cases output with ⟨p', notices, heq, hcurrent⟩ |
    ⟨p', notices, files, heq, hcurrent, hkeys⟩
  · rw [heq]
    refine Triple.bind (hnotices notices) fun _ => Triple.pure fun _ h => ?_
    simp only [hcurrent]
    exact ⟨h, List.Subset.refl _⟩
  · rw [heq]
    refine Triple.bind (hnotices notices) fun _ => ?_
    refine Triple.bind (Shadow.stage_triple dir base before p.current files.entries) fun _ => ?_
    refine Triple.pure fun _ h => ?_
    simp only [hcurrent]
    exact ⟨h, Table.keys_insertAll_subset _ _ hkeys (List.Subset.refl _)⟩

/-- **What the compiler is asked in a round.**  It is started once for each file, on what the
workbench holds when the round begins; if the round fails, perhaps not for the last ones. -/
lemma round_asks (bench : Workbench) :
    Triple (· = bench) (round (hostOf c dir verbose) paths p) (fun _ => c.Started paths bench)
      (fun after => ∃ asked, asked <+: paths ∧ c.Started asked bench after) := by
  have hdiagnose : Triple (· = bench) ((hostOf c dir verbose).diagnose paths)
      (fun _ => c.Started paths bench)
      (fun after => ∃ asked, asked <+: paths ∧ c.Started asked bench after) := by
    refine (c.diagnose_triple bench paths).mono (fun _ _ hasked => hasked.started) ?_
    rintro after ⟨asked, hasked, h⟩
    exact ⟨asked, hasked, h.started⟩
  refine Triple.bind hdiagnose fun output => ?_
  -- Nothing that comes after the questions starts the compiler.
  refine (Keeps.triple ?_ _).mono_failed fun _ h => ⟨paths, List.prefix_rfl, h⟩
  rcases p.advance output with ⟨p', notices, verdict⟩
  refine Keeps.bind ((onlyPrints_notices c dir verbose notices).keeps fun _ _ => rfl) fun _ => ?_
  cases verdict with
  | stop => exact Keeps.pure _
  | changed files =>
      exact Keeps.bind (Shadow.keeps_invocations_stage dir files.entries) fun _ => Keeps.pure _

end

end CommandLine

/-! ## All rounds -/

/-- **Rounds that changed files**, from one state to another, with what each of them changed. -/
inductive Rounds (host : Host Run) (paths : List Text) :
    List (Table Text Text) → Progress → Workbench → Progress → Workbench → Prop
  | none (p : Progress) (bench : Workbench) : Rounds host paths [] p bench p bench
  | cons {p p' p'' : Progress} {bench bench' bench'' : Workbench} {files : Table Text Text}
      {rest : List (Table Text Text)} :
      (round host paths p).on bench = (.ok (p', .changed files), bench') →
        Rounds host paths rest p' bench' p'' bench'' →
          Rounds host paths (files :: rest) p bench p'' bench''

/-- The text of a file after some rounds: that of the last round that changed it, or the one from
before them. -/
def textAfter (before : Table Text Text) (rounds : List (Table Text Text)) (file : Text) :
    Option Text :=
  (rounds.reverse.findSome? (·.get? file)).or (before.get? file)

lemma textAfter_cons (before files : Table Text Text) (rest : List (Table Text Text))
    (file : Text) :
    textAfter before (files :: rest) file
      = textAfter (before.insertAll files.entries) rest file := by
  rw [textAfter, textAfter, List.reverse_cons, List.findSome?_append, Table.get?_insertAll]
  cases rest.reverse.findSome? (·.get? file) with
  | some text => rfl
  | none => cases hfile : files.get? file <;> simp [hfile]

/-- A round that goes on enters what it changed. -/
lemma current_of_round {host : Host Run} {paths : List Text} {p p' : Progress}
    {bench bench' : Workbench} {files : Table Text Text}
    (h : (round host paths p).on bench = (.ok (p', .changed files), bench')) :
    p'.current = p.current.insertAll files.entries := by
  have hround : Triple (fun _ => True) (round host paths p)
      (fun r _ => ∀ files, r.2 = .changed files → r.1.current = p.current.insertAll files.entries)
      (fun _ => True) := by
    refine Triple.bind (Triple.trivial _) fun output => ?_
    rcases p.advance_cases output with ⟨p', notices, heq, -⟩ |
      ⟨p', notices, files, heq, hcurrent, -⟩
    · rw [heq]
      refine Triple.bind (Triple.trivial _) fun _ => Triple.pure fun _ _ files hfiles => ?_
      cases hfiles
    · rw [heq]
      refine Triple.bind (Triple.trivial _) fun _ => Triple.bind (Triple.trivial _) fun _ => ?_
      refine Triple.pure fun _ _ files hfiles => ?_
      cases hfiles
      exact hcurrent
  exact hround.of_ok trivial h files rfl

namespace Rounds

variable {host : Host Run} {paths : List Text} {rounds : List (Table Text Text)}
  {p p' : Progress} {bench bench' : Workbench}

/-- As many rounds can be made with a limit. -/
lemma drive_on (h : Rounds host paths rounds p bench p' bench') :
    (drive host paths rounds.length p).on bench = (.ok p', bench') := by
  induction h with
  | none p bench => rfl
  | cons hround _ ih =>
      rw [List.length_cons, drive_succ, Run.on_bind_ok hround]
      exact ih

/-- **The present text of a file** is the one of the last round that changed it, or the one from
before. -/
lemma get?_current (h : Rounds host paths rounds p bench p' bench') (file : Text) :
    p'.current.get? file = textAfter p.current rounds file := by
  induction h with
  | none p bench => rfl
  | cons hround _ ih => rw [textAfter_cons, ← current_of_round hround, ih]

end Rounds

namespace CommandLine

variable {c : Compiler} {dir : Path} {verbose : Bool} {paths : List Text}

/-- **The invariant of all rounds**, however many there are and wherever they fail. -/
lemma drive_staged (base : FileTree) (before : Table Text Text) : ∀ (limit : Nat) (p : Progress),
    Triple (Shadow.Staged dir base before p.current) (drive (hostOf c dir verbose) paths limit p)
      (fun p' after => Shadow.Staged dir base before p'.current after ∧
        p'.current.keys ⊆ p.current.keys)
      (Shadow.InUse dir base)
  | 0, p => Triple.pure fun _ h => ⟨h, List.Subset.refl _⟩
  | limit + 1, p => by
      rw [drive_succ]
      refine Triple.bind (round_staged c dir verbose paths p base before) fun (p', verdict) => ?_
      cases verdict with
      | stop => exact Triple.pure fun _ h => h
      | changed files =>
          rintro start ⟨hstart, hkeys⟩
          refine (drive_staged base before limit p').mono_post ?_ start hstart
          rintro p'' after ⟨hafter, hkeys'⟩
          exact ⟨hafter, List.Subset.trans hkeys' hkeys⟩

end CommandLine

end Amend
