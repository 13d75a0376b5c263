import Amend.Proofs.Rounds

/-!
# All or nothing

The command `fix` writes files only after the last round, and the shadows are removed whatever
happens.  So a run that is interrupted anywhere leaves the file tree as it found it, and a run that
succeeds leaves other texts in some of the files that were named, and nothing else.

* `Written`: files below the shadows have been rewritten, all of them named.
* `autofix_triple` and `runFixing_triple` follow the tree through reading, rounds, writing and
  cleaning up.
* `reportFix_triple`: after files have been written nothing can fail any more.
* `run_fix_allOrNothing` is the whole command line.

A run can be interrupted wherever it reads, checks settings, stages, or starts the compiler.  The
summary is printed behind the writing, and printing is assumed never to fail (`Run.emit`).
-/

namespace Amend.CommandLine

open Run (Triple Keeps OnlyPrints)

/-- The locations that files on a command line lead to. -/
def NamedBy (dir : Path) (tree : FileTree) (files : List Text) (loc : Location) : Prop :=
  ∃ file ∈ files, tree.locate (dir.under (.ofText file)) = .ok loc

/-- The files are those of a tree, and nothing is staged. -/
def Untouched (tree : FileTree) (bench : Workbench) : Prop :=
  bench.tree = tree ∧ bench.shadows = .empty

/-! ## Writing -/

/-- The shadows stand on a tree in which named files have been rewritten. -/
def Written (dir : Path) (tree : FileTree) (files : List Text) (bench : Workbench) : Prop :=
  ∃ base, Shadow.InUse dir base bench ∧ FileTree.Rewrites (NamedBy dir tree files) tree base

/-- A file that has been read can be written. -/
lemma writeText_triple {dir : Path} {tree : FileTree} {files : List Text} {file : Text}
    {content : Content} (hfile : file ∈ files)
    (hread : tree.read (dir.under (.ofText file)) = .ok content) (text : Text)
    {failed : Workbench → Prop} :
    Triple (Written dir tree files) (Run.writeText (dir.under (.ofText file)) text)
      (fun _ => Written dir tree files) failed := by
  rintro bench ⟨base, ⟨shades, hkept⟩, hrewrites⟩
  obtain ⟨loc, hloc, hentry⟩ := FileTree.read_eq_ok_iff.mp hread
  obtain ⟨new, hnew⟩ := hrewrites.entry?_file hentry
  -- Nothing that was rewritten or added is a directory, so the path leads where it led.
  have hlocBase := hrewrites.sameDirectories.locate hloc
  have hlocBench := hkept.adds.sameDirectories.locate hlocBase
  rw [Run.on_writeText, FileTree.write_of_file hlocBench (hkept.adds.entry?_base hnew)]
  exact ⟨_, ⟨shades, hkept.rewriteBase hnew _⟩, hrewrites.rewrite ⟨file, hfile, hloc⟩ hentry _⟩

/-- All files that have been read can be written. -/
lemma writeAll_triple {dir : Path} {tree : FileTree} {files : List Text}
    {before : Table Text Text} (hread : ReadFrom dir tree before) (hkeys : before.keys ⊆ files)
    (entries : List (Text × Text)) (hentries : entries.map Prod.fst ⊆ before.keys)
    {failed : Workbench → Prop} :
    Triple (Written dir tree files)
      (entries.forM fun (file, text) => Run.writeText (dir.under (.ofText file)) text)
      (fun _ => Written dir tree files) failed := by
  refine Triple.forM_invariant entries fun (file, text) hmem => ?_
  have hfile : file ∈ before.keys := hentries (List.mem_map.mpr ⟨_, hmem, rfl⟩)
  obtain ⟨old, hold⟩ := Option.isSome_iff_exists.mp ((Table.isSome_get?_iff _ _).mpr hfile)
  obtain ⟨content, hcontent, -⟩ := hread file old hold
  exact writeText_triple (hkeys hfile) hcontent text

/-- What is to be written are present texts. -/
lemma keys_summary_subset {p : Progress} {before : Table Text Text} {s : Summary}
    (h : p.summary? before = some s) : s.files.keys ⊆ p.current.keys := by
  unfold Progress.summary? at h
  simp only at h
  split at h
  · cases h
  · cases h
    exact List.map_subset _ (List.filter_subset_self _)

/-! ## The rounds and what comes after them -/

section

variable (c : Compiler) (dir : Path) (files : List Text) (limit : Nat) (verbose write : Bool)

/-- **Reading, rounds and writing.**  A failure leaves no file rewritten. -/
lemma autofix_triple (bench : Workbench) (hshadows : bench.shadows = .empty) :
    Triple (· = bench) (autofix (hostOf c dir verbose) .standard files limit write)
      (fun _ after => ∃ base, Shadow.InUse dir base after ∧
        FileTree.Rewrites (NamedBy dir bench.tree files) bench.tree base ∧
          (write = false → base = bench.tree))
      (Shadow.InUse dir bench.tree) := by
  refine Triple.bind (readAll_staged (fun _ => rfl) bench hshadows files) fun before => ?_
  rintro start ⟨hstart, hfrom, hkeys⟩
  refine Triple.bind (drive_staged bench.tree before limit (.start .standard before))
    (fun p => ?_) start hstart
  cases hsummary : p.summary? before with
  | none =>
      exact Triple.pure fun _ h => ⟨bench.tree, h.1.inUse, FileTree.Rewrites.refl _ _, fun _ => rfl⟩
  | some summary =>
      cases write with
      | false =>
          exact Triple.pure fun _ h =>
            ⟨bench.tree, h.1.inUse, FileTree.Rewrites.refl _ _, fun _ => rfl⟩
      | true =>
          rintro middle ⟨hmiddle, hcurrent⟩
          have hsubset : before.keys ⊆ files := fun file hfile => (hkeys file).mp hfile
          have hentries := List.Subset.trans (keys_summary_subset hsummary) hcurrent
          refine Triple.bind (writeAll_triple hfrom hsubset _ hentries) (fun _ => ?_) middle
            ⟨bench.tree, hmiddle.inUse, FileTree.Rewrites.refl _ _⟩
          refine Triple.pure fun after ⟨base, hbase, hrewrites⟩ => ⟨base, hbase, hrewrites, ?_⟩
          exact fun hfalse => by cases hfalse

/-- **Fixing is all or nothing.**  The shadows are gone in the end, and a failure leaves the tree as
it was. -/
lemma runFixing_triple (tree : FileTree) :
    Triple (Untouched tree) (runFixing c dir files limit verbose write)
      (fun _ after => FileTree.Rewrites (NamedBy dir tree files) tree after.tree ∧
        (write = false → after.tree = tree))
      (fun after => after.tree = tree) := by
  rintro bench ⟨rfl, hshadows⟩
  refine Triple.andFinally (autofix_triple c dir files limit verbose write bench hshadows)
    (fun _ => ?_) (Shadow.cleanup_triple dir bench.tree) bench rfl
  rintro middle ⟨base, hbase, hrewrites, hdry⟩
  rw [Shadow.cleanup_on hbase]
  exact ⟨hrewrites, hdry⟩

end

/-! ## What is printed around it -/

lemma onlyPrints_requireFiles (dir : Path) (files : List Text) :
    OnlyPrints (requireFiles dir files) := by
  unfold requireFiles
  split
  · exact Keeps.bind (OnlyPrints.emit _) fun _ => Keeps.pure _
  · refine Keeps.bind (Keeps.filterM (fun file => ?_) files) fun missing => ?_
    · exact Keeps.bind (Keeps.bind Keeps.get fun _ => Keeps.ofFile _) fun _ => Keeps.pure _
    · cases missing with
      | nil => exact Keeps.pure _
      | cons file missing => exact Keeps.bind (OnlyPrints.emit _) fun _ => Keeps.pure _

lemma onlyPrints_requireSettings (site : Site) (asked : Layer) (moreArgs : List Text) :
    OnlyPrints (requireSettings site asked moreArgs) := by
  refine Keeps.bind Keeps.get fun seen => ?_
  dsimp only
  split
  · exact Keeps.pure _
  · split
    · exact Keeps.bind (OnlyPrints.emit _) fun _ => Keeps.pure _
    · exact Keeps.throw _

section

variable {invariant : Workbench → Prop}
  (hinvariant : ∀ bench transcript, invariant bench → invariant { bench with transcript })

include hinvariant

/-- A fault that is reported gives the exit code of the system's failures. -/
lemma reportFault_triple (fault : Fault) :
    Triple invariant (reportFault fault) (fun code bench => code = systemError ∧ invariant bench)
      invariant := by
  have hsay : ∀ t, Triple invariant (announce t) (fun _ => invariant) invariant :=
    fun _ => Triple.emit hinvariant _
  have hcode : Triple invariant (pure systemError)
      (fun code bench => code = systemError ∧ invariant bench) invariant :=
    Triple.pure fun _ h => ⟨rfl, h⟩
  cases fault with
  | compilerMissing program => exact Triple.bind (hsay _) fun _ => hcode
  | timedOut timeout => exact Triple.bind (hsay _) fun _ => hcode
  | compilerDenied program => exact Triple.bind (hsay _) fun _ => hcode
  | file e =>
      unfold reportFault
      dsimp only
      split
      · exact Triple.throw fun _ h => h
      · exact Triple.bind (hsay _) fun _ => hcode
  | undecodable e => exact Triple.throw fun _ h => h
  | emptyName path => exact Triple.throw fun _ h => h
  | noFreeName path => exact Triple.throw fun _ h => h
  | roundLimit => exact Triple.throw fun _ h => h
  | settings e => exact Triple.throw fun _ h => h

/-- An attempt gives the result, or reports what made it fail. -/
lemma attempt_triple {α : Type} {run : Run α} {pre : Workbench → Prop}
    {post : α → Workbench → Prop} (hrun : Triple pre run post invariant) :
    Triple pre (attempt run)
      (fun result bench =>
        match result with
        | .ok a => post a bench
        | .error code => code = systemError ∧ invariant bench)
      invariant :=
  Triple.tryCatch (Triple.map hrun) fun fault => Triple.map (reportFault_triple hinvariant fault)

lemma printSummary_triple (s : Summary) {failed : Workbench → Prop} :
    Triple invariant (printSummary s) (fun _ => invariant) failed :=
  Triple.bind (Triple.emit hinvariant _) fun _ =>
    Triple.forM_invariant _ fun _ _ => Triple.emit hinvariant _

/-- **After files have been written, nothing can fail.**  Only a dry run still has to read. -/
lemma reportFix_triple (dir : Path) (o : FixOptions) (summary : Option Summary) :
    Triple invariant (reportFix dir o summary) (fun _ => invariant)
      (fun bench => invariant bench ∧ o.dryRun = true) := by
  unfold reportFix
  split
  · exact Triple.emit hinvariant _
  · cases summary with
    | none => exact Triple.emit hinvariant _
    | some s =>
        dsimp only
        split
        · next hdry =>
          refine Triple.bind (Triple.emit hinvariant _) fun _ => ?_
          refine Triple.bind (Triple.forM_invariant _ fun (file, text) _ => ?_) fun _ =>
            printSummary_triple hinvariant s
          have hdiff : OnlyPrints (printDiff dir file text) :=
            Keeps.bind (Keeps.readText _) fun _ => OnlyPrints.emit _
          exact (hdiff.triple hinvariant).mono_failed fun _ h => ⟨h, hdry⟩
        · exact printSummary_triple hinvariant s

end

/-! ## The command -/

/-- What `fix` may have done to a tree when it ends with an exit code. -/
structure FixedOrSame (dir : Path) (o : FixOptions) (tree : FileTree) (code : Nat)
    (after : FileTree) : Prop where
  eq_of_failure : code ≠ 0 → after = tree
  eq_of_dryRun : o.dryRun = true → after = tree
  rewrites : FileTree.Rewrites (NamedBy dir tree o.files) tree after

namespace FixedOrSame

variable (dir : Path) (o : FixOptions) (tree : FileTree) (code : Nat)

/-- Nothing has been done. -/
lemma refl : FixedOrSame dir o tree code tree :=
  ⟨fun _ => rfl, fun _ => rfl, FileTree.Rewrites.refl _ _⟩

end FixedOrSame

lemma runFix_triple (site : Site) (o : FixOptions) (tree : FileTree) :
    Triple (Untouched tree) (runFix site o)
      (fun code after => FixedOrSame site.directory o tree code after.tree)
      (fun after => after.tree = tree) := by
  have hstill : ∀ {α : Type} {run : Run α}, OnlyPrints run →
      Triple (Untouched tree) run (fun _ => Untouched tree) (fun bench => bench.tree = tree) :=
    fun hrun => (hrun.triple fun _ _ h => h).mono_failed fun _ h => h.1
  have hsame : ∀ code, Triple (Untouched tree) (pure code)
      (fun code after => FixedOrSame site.directory o tree code after.tree)
      (fun after => after.tree = tree) := by
    intro code
    refine Triple.pure fun bench h => ?_
    rw [h.1]
    exact FixedOrSame.refl _ _ _ _
  refine Triple.bind (hstill (onlyPrints_requireFiles _ _)) fun ready => ?_
  cases ready with
  | false => exact hsame userError
  | true =>
      refine Triple.bind (hstill (onlyPrints_requireSettings _ _ _)) fun settings => ?_
      cases settings with
      | none => exact hsame userError
      | some settings =>
          have hfixing := runFixing_triple (compilerOf site settings) site.directory o.files
            settings.rounds o.verbose (!o.dryRun) tree
          refine Triple.bind (attempt_triple (fun _ _ h => h) hfixing) fun result => ?_
          cases result with
          | error code =>
              refine Triple.pure fun bench h => ?_
              rw [h.2]
              exact FixedOrSame.refl _ _ _ _
          | ok summary =>
              refine Triple.bind (Triple.mono_failed
                (reportFix_triple (fun _ _ h => h) site.directory o summary) ?_) fun _ => ?_
              · rintro bench ⟨⟨-, hkept⟩, hdry⟩
                exact hkept (by rw [hdry]; rfl)
              · refine Triple.pure fun bench ⟨hrewrites, hkept⟩ => ?_
                exact ⟨fun h => absurd rfl h, fun hdry => hkept (by rw [hdry]; rfl), hrewrites⟩

lemma parse_fix (args : List Text) :
    Command.parse? ("fix" :: args) = Command.ofWords? fixSpecs Command.fix? args := rfl

lemma Command.fix?_cases (items : List Item) : Command.fix? items = none ∨
    ∃ o, Command.fix? items = some (.fix o) ∧ o.files = words items ∧
      o.dryRun = has items .dryRun := by
  unfold fix?
  cases hwords : words items with
  | nil => exact .inl rfl
  | cons file files =>
      cases rounds? items with
      | none => exact .inl rfl
      | some rounds => exact .inr ⟨_, rfl, rfl, rfl⟩

/-- **All or nothing.**  Where it is a dry run, or ends with another exit code than zero or not with
an exit code at all, the tree is what it was.  Otherwise no file has come or gone, and only files
that are named on the command line may hold something else. -/
structure AllOrNothing (site : Site) (args : List Text) (tree : FileTree) (outcome : Outcome)
    (after : FileTree) : Prop where
  eq_of_failure : outcome ≠ .exit 0 → after = tree
  eq_of_dryRun : ∀ items, scan fixSpecs args = some items → has items .dryRun = true → after = tree
  rewrites : FileTree.Rewrites (fun loc => ∃ items, scan fixSpecs args = some items ∧
    NamedBy site.directory tree (words items) loc) tree after

/-- Nothing is always allowed. -/
lemma AllOrNothing.refl (site : Site) (args : List Text) (tree : FileTree) (outcome : Outcome) :
    AllOrNothing site args tree outcome tree :=
  ⟨fun _ => rfl, fun _ _ _ => rfl, FileTree.Rewrites.refl _ _⟩

/-- The words of the command line are those of its options. -/
lemma AllOrNothing.of_fixed {site : Site} {args : List Text} {tree after : FileTree}
    {items : List Item} {o : FixOptions} {code : Nat} (hscan : scan fixSpecs args = some items)
    (hfiles : o.files = words items) (hdry : o.dryRun = has items .dryRun)
    (h : FixedOrSame site.directory o tree code after) :
    AllOrNothing site args tree (.exit code) after where
  eq_of_failure := fun hne => h.eq_of_failure fun hzero => hne (by rw [hzero])
  eq_of_dryRun := by
    intro items' hitems' hdry'
    rw [hscan, Option.some.injEq] at hitems'
    exact h.eq_of_dryRun (by rw [hdry, hitems', hdry'])
  rewrites := by
    refine h.rewrites.mono fun loc hnamed => ⟨items, hscan, ?_⟩
    rwa [hfiles] at hnamed

/-- **The command `fix` is all or nothing**, for all words after it, on every tree, and whatever the
compiler does at any of its starts. -/
theorem run_fix_allOrNothing (site : Site) (args : List Text) (tree : FileTree)
    (replies : List Reply) :
    AllOrNothing site args tree (run site ("fix" :: args) { tree, replies }).1
      (run site ("fix" :: args) { tree, replies }).2.tree := by
  rw [run, parse_fix, Command.ofWords?]
  cases hscan : scan fixSpecs args with
  | none => exact AllOrNothing.refl _ _ _ _
  | some items =>
      rw [Option.bind_some]
      by_cases hhelp : has items .help = true
      · rw [if_pos hhelp]
        exact AllOrNothing.refl _ _ _ _
      · rw [if_neg hhelp]
        rcases Command.fix?_cases items with hfix | ⟨o, hfix, hfiles, hdry⟩
        · rw [hfix]
          exact AllOrNothing.refl _ _ _ _
        · rw [hfix]
          have htriple := runFix_triple site o tree
          rcases hrun : (runFix site o).on { tree, replies } with ⟨fault | code, after⟩
          · have hsame := htriple.of_error ⟨rfl, rfl⟩ hrun
            simp only [runCommand, hrun, hsame]
            exact AllOrNothing.refl _ _ _ _
          · have hfixed := htriple.of_ok ⟨rfl, rfl⟩ hrun
            simp only [runCommand, hrun]
            exact AllOrNothing.of_fixed hscan hfiles hdry hfixed

-- The first round takes an instantiation away.  The file is rewritten if the compiler is content
-- with that, and stays as it is if its second start does not end in time.
example :
    let site : Site := ⟨.ofText "/", []⟩
    let tree : FileTree := ⟨.ofList [(["a.mo"], .file (.text "f<T>(x)"))]⟩
    let warning : Reply := .finished 1 [] "a.mo:1.2-1.5: warning [M0223], redundant"
    let fixed (replies : List Reply) := (run site ["fix", "a.mo"] { tree, replies }).2.tree
    (fixed [warning, .silent]).read (.ofText "/a.mo") = .ok (.text "f(x)") ∧
      fixed [warning, .timedOut] = tree := by
  decide +kernel

end Amend.CommandLine
