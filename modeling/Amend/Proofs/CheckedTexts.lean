import Amend.Proofs.Rounds

/-!
# What the compiler gets to see

Positions in the compiler's output refer to the text that it has read.  They are of use only if that
is the text to which the next fixes are applied: at each start of the compiler the file on the
command line, a shadow or the file itself, has to hold the present text.

* `Shadow.Staged.read_pathFor`: where the shadows hold the present texts, the path that the compiler
  gets for a file leads to its present text.
* `drive_invocations`: each start of the compiler belongs to a state of the rounds.
* `runFixing_checks_current`: every start of the compiler in a run sees the present text.
-/

namespace Amend

open Run (Triple Keeps OnlyPrints)

/-! ## A path and what it leads to -/

namespace Shadow

/-- No two files have their shadows in one place. -/
def Separate (dir : Path) (bench : Workbench) : Prop :=
  ∀ file path file' path', bench.shadows.get? file = some path →
    bench.shadows.get? file' = some path' → file ≠ file' →
      bench.tree.locate (dir.under (.ofText path)) ≠ bench.tree.locate (dir.under (.ofText path'))

lemma InUse.separate {dir : Path} {base : FileTree} {bench : Workbench}
    (h : InUse dir base bench) : Separate dir bench := by
  obtain ⟨shades, hkept⟩ := h
  intro file path file' path' hfile hfile' hne heq
  obtain ⟨s, hs, rfl, rfl⟩ := hkept.mem_of_get? hfile
  obtain ⟨s', hs', rfl, rfl⟩ := hkept.mem_of_get? hfile'
  rw [hkept.locate_tree hs, hkept.locate_tree hs', Except.ok.injEq, hkept.loc_eq_iff hs hs'] at heq
  exact hne heq

/-- **The path for the compiler leads to the present text.** -/
lemma Staged.read_pathFor {dir : Path} {base : FileTree} {before current : Table Text Text}
    {bench : Workbench} (h : Staged dir base before current bench)
    (hread : ReadFrom dir base before) {file : Text} (hfile : file ∈ before.keys) :
    ∃ content text,
      bench.tree.read (dir.under (.ofText (pathFor bench.shadows file))) = .ok content ∧
        content.toText = .ok text ∧ current.get? file = some text := by
  obtain ⟨shades, hkept, hshows⟩ := h
  unfold pathFor
  cases hget : bench.shadows.get? file with
  | some path =>
      obtain ⟨s, hs, rfl, rfl⟩ := hkept.mem_of_get? hget
      exact ⟨.text s.text, s.text, hkept.read_path hs, rfl, hshows.get?_file s hs⟩
  | none =>
      obtain ⟨text, htext⟩ := Option.isSome_iff_exists.mp ((Table.isSome_get?_iff _ _).mpr hfile)
      obtain ⟨content, hcontent, htoText⟩ := hread file text htext
      refine ⟨content, text, hkept.read_base hcontent, htoText, ?_⟩
      rw [hshows.get?_eq file (hkept.get?_eq_none_iff.mp hget), htext]

end Shadow

/-! ## Starts of the compiler -/

/-- After a question about some files, or the first of them, a start of the compiler is an earlier
one, or belongs to one of the files. -/
lemma Compiler.Started.getElem? {c : Compiler} {asked files : List Text} {bench after : Workbench}
    (h : c.Started asked bench after) (hasked : asked <+: files) {i : Nat} {inv : Invocation}
    (hi : after.invocations[i]? = some inv) :
    bench.invocations[i]? = some inv ∨ ∃ j file, files[j]? = some file ∧
      i = bench.invocations.length + j ∧ inv = c.invocationFor bench.tree bench.shadows file := by
  have hstarted : after.invocations = _ := h
  rw [hstarted] at hi
  by_cases hlt : i < bench.invocations.length
  · rw [List.getElem?_append_left hlt] at hi
    exact .inl hi
  · have hle := Nat.le_of_not_lt hlt
    rw [List.getElem?_append_right hle, List.getElem?_map, Option.map_eq_some_iff] at hi
    obtain ⟨file, hfile, rfl⟩ := hi
    obtain ⟨rest, rfl⟩ := hasked
    refine .inr ⟨i - bench.invocations.length, file, ?_, (Nat.add_sub_of_le hle).symm, rfl⟩
    rwa [List.getElem?_append_left (List.getElem?_eq_some_iff.mp hfile).1]

namespace CommandLine

/-- The start with a number belongs to a state of the rounds: it is one of the questions that are
asked after some rounds, about the files as they are then. -/
def AskedAfter (c : Compiler) (dir : Path) (verbose : Bool) (paths : List Text) (p : Progress)
    (bench : Workbench) (i : Nat) (inv : Invocation) : Prop :=
  ∃ rounds p' mid j file, Rounds (hostOf c dir verbose) paths rounds p bench p' mid ∧
    paths[j]? = some file ∧ i = mid.invocations.length + j ∧
      inv = c.invocationFor mid.tree mid.shadows file

section

variable {c : Compiler} {dir : Path} {verbose : Bool} {paths : List Text}

/-- The questions of the first round. -/
lemma askedAfter_none {asked : List Text} {p : Progress} {bench after : Workbench} {i : Nat}
    {inv : Invocation} (h : c.Started asked bench after) (hasked : asked <+: paths)
    (hi : after.invocations[i]? = some inv) :
    bench.invocations[i]? = some inv ∨ AskedAfter c dir verbose paths p bench i inv := by
  refine (h.getElem? hasked hi).imp id ?_
  rintro ⟨j, file, hfile⟩
  exact ⟨[], p, bench, j, file, .none p bench, hfile⟩

/-- The questions of later rounds. -/
lemma AskedAfter.cons {p p' : Progress} {bench bench' : Workbench} {files : Table Text Text}
    {i : Nat} {inv : Invocation}
    (hround : (round (hostOf c dir verbose) paths p).on bench = (.ok (p', .changed files), bench'))
    (h : AskedAfter c dir verbose paths p' bench' i inv) :
    AskedAfter c dir verbose paths p bench i inv := by
  obtain ⟨rounds, p'', mid, j, file, hrounds, hrest⟩ := h
  exact ⟨files :: rounds, p'', mid, j, file, .cons hround hrounds, hrest⟩

/-- **Each start belongs to a state of the rounds.** -/
lemma drive_invocations {i : Nat} {inv : Invocation} :
    ∀ (limit : Nat) (p : Progress) (bench : Workbench),
      ((drive (hostOf c dir verbose) paths limit p).on bench).2.invocations[i]? = some inv →
        bench.invocations[i]? = some inv ∨ AskedAfter c dir verbose paths p bench i inv
  | 0, _, _, hinv => .inl hinv
  | limit + 1, p, bench, hinv => by
      have hasks := round_asks c dir verbose paths p bench
      rw [drive_succ, Run.on_bind] at hinv
      rcases hround : (round (hostOf c dir verbose) paths p).on bench with
        ⟨e | ⟨p', verdict⟩, after⟩
      · obtain ⟨asked, hasked, hstarted⟩ := hasks.of_error rfl hround
        rw [hround] at hinv
        exact askedAfter_none hstarted hasked hinv
      · have hstarted := hasks.of_ok rfl hround
        rw [hround] at hinv
        cases verdict with
        | stop => exact askedAfter_none hstarted List.prefix_rfl hinv
        | changed files =>
            rcases drive_invocations limit p' after hinv with hearlier | hlater
            · exact askedAfter_none hstarted List.prefix_rfl hearlier
            · exact .inr (.cons hround hlater)

end

end CommandLine

namespace Rounds

open CommandLine (hostOf)

variable {c : Compiler} {dir : Path} {verbose : Bool} {paths : List Text}
  {rounds : List (Table Text Text)} {p p' : Progress} {bench mid : Workbench}

lemma staged {base : FileTree} {before : Table Text Text}
    (h : Rounds (hostOf c dir verbose) paths rounds p bench p' mid)
    (hstart : Shadow.Staged dir base before p.current bench) :
    Shadow.Staged dir base before p'.current mid :=
  ((CommandLine.drive_staged base before _ p).of_ok hstart h.drive_on).1

/-- In each round there is one start for each file. -/
lemma length_invocations (h : Rounds (hostOf c dir verbose) paths rounds p bench p' mid) :
    mid.invocations.length = bench.invocations.length + rounds.length * paths.length := by
  induction h with
  | none p bench => simp
  | cons hround _ ih =>
      have hstarted : _ = _ := (CommandLine.round_asks c dir verbose paths _ _).of_ok rfl hround
      rw [ih, hstarted, List.length_append, List.length_map, List.length_cons, Nat.succ_mul]
      omega

end Rounds

/-! ## The whole run -/

namespace CommandLine

/-- The rounds of a run, with the shadows still in place. -/
def fixingRounds (c : Compiler) (files : List Text) (limit : Nat) (verbose : Bool) :
    Run Progress := do
  let before ← readAll (hostOf c c.directory verbose) files
  drive (hostOf c c.directory verbose) files limit (.start .standard before)

section

variable (c : Compiler) (files : List Text) (limit : Nat) (verbose write : Bool)

/-- The compiler is started in the rounds and not afterwards. -/
lemma runFixing_invocations (bench : Workbench) :
    ((runFixing c c.directory files limit verbose write).on bench).2.invocations
      = ((fixingRounds c files limit verbose).on bench).2.invocations := by
  rw [runFixing, Run.on_andFinally_snd]
  refine (Shadow.keeps_invocations_cleanup c.directory _).trans ?_
  rw [autofix, fixingRounds, Run.on_bind, Run.on_bind]
  rcases (readAll (hostOf c c.directory verbose) files).on bench with ⟨e | before, after⟩
  · rfl
  · refine Keeps.on_bind_snd (fun p => ?_) _ after
    cases p.summary? before with
    | none => exact Keeps.pure _
    | some summary =>
        cases write with
        | false => exact Keeps.pure _
        | true =>
            refine Keeps.bind (Keeps.forM (fun (file, text) => ?_) _) fun _ => Keeps.pure _
            exact Keeps.writeText (fun _ _ => rfl) _ _

/-- The table of shadows and the tree agree in the end of all rounds, and where they fail. -/
lemma fixingRounds_inUse (tree : FileTree) (replies : List Reply) :
    Shadow.InUse c.directory tree
      ((fixingRounds c files limit verbose).on { tree, replies }).2 := by
  suffices h : Triple (· = { tree, replies }) (fixingRounds c files limit verbose)
      (fun _ => Shadow.InUse c.directory tree) (Shadow.InUse c.directory tree) from
    Triple.iff_snd.mp h _ rfl
  refine Triple.bind (readAll_staged (fun _ => rfl) { tree, replies } rfl files) fun before => ?_
  refine Triple.mono_pre ?_ fun _ h => h.1
  exact (drive_staged tree before limit (.start .standard before)).mono_post fun _ _ h => h.1.inUse

end

/-- The file on the command line of an invocation holds the present text of a file. -/
structure SeesCurrent (c : Compiler) (p : Progress) (bench : Workbench) (file : Text)
    (inv : Invocation) : Prop where
  command_eq : inv.command = c.command (Shadow.pathFor bench.shadows file)
  holds_current : ∃ content text,
    bench.tree.read (c.directory.under (.ofText (Shadow.pathFor bench.shadows file))) = .ok content ∧
      inv.content = some content ∧ content.toText = .ok text ∧ p.current.get? file = some text

/-- The start of the compiler with number `i` is for the file that is next in the list, and belongs
to the state that the completed rounds lead to.  The file on its command line then holds the present
text: the text of the last round that changed it, or the text that was read in the beginning. -/
def ChecksCurrent (c : Compiler) (files : List Text) (verbose : Bool) (bench : Workbench) (i : Nat)
    (inv : Invocation) : Prop :=
  ∃ file before rounds p mid, files[i % files.length]? = some file ∧
    rounds.length = i / files.length ∧ ReadFrom c.directory bench.tree before ∧
    Rounds (hostOf c c.directory verbose) files rounds (.start .standard before) bench p mid ∧
    (fixingRounds c files rounds.length verbose).on bench = (.ok p, mid) ∧
    SeesCurrent c p mid file inv ∧ ∀ file, p.current.get? file = textAfter before rounds file

/-- **The compiler always sees what has been fixed so far**, at every start in every run, and no two
files ever have a shadow in common. -/
theorem runFixing_checks_current (c : Compiler) (files : List Text) (limit : Nat)
    (verbose write : Bool) (tree : FileTree) (replies : List Reply) :
    (∀ i inv, ((runFixing c c.directory files limit verbose write).on
        { tree, replies }).2.invocations[i]? = some inv →
      ChecksCurrent c files verbose { tree, replies } i inv) ∧
    ∀ k, Shadow.Separate c.directory
      ((fixingRounds c files k verbose).on { tree, replies }).2 := by
  refine ⟨fun i inv hinv => ?_,
    fun k => (fixingRounds_inUse c files k verbose tree replies).separate⟩
  rw [runFixing_invocations, fixingRounds, Run.on_bind] at hinv
  have hreadAll := readAll_triple (fun file => (rfl : (hostOf c c.directory verbose).read file = _))
    { tree, replies } files
  rcases hon : (readAll (hostOf c c.directory verbose) files).on { tree, replies } with
    ⟨e | before, after⟩
  · rw [hon, hreadAll.of_error rfl hon] at hinv
    simp at hinv
  · obtain ⟨hafter, hfrom, hkeys⟩ := hreadAll.of_ok rfl hon
    rw [hon] at hinv
    subst hafter
    rcases drive_invocations limit _ _ hinv with hnone |
      ⟨rounds, p, mid, j, file, hrounds, hfile, hi, rfl⟩
    · simp at hnone
    · have hstart := Shadow.Staged.start c.directory before { tree, replies } rfl
      have hread := (hkeys file).mpr (List.mem_of_getElem? hfile)
      obtain ⟨content, text, hcontent, htext, hcurrent⟩ :=
        (hrounds.staged hstart).read_pathFor hfrom hread
      have hseen : SeesCurrent c p mid file (c.invocationFor mid.tree mid.shadows file) := by
        refine ⟨rfl, content, text, hcontent, ?_, htext, hcurrent⟩
        simp only [Compiler.invocationFor, Compiler.checkedContent, hcontent]
      have hlt : j < files.length := (List.getElem?_eq_some_iff.mp hfile).1
      have hindex : j + files.length * rounds.length = i := by
        rw [hi, hrounds.length_invocations, Nat.mul_comm]
        simp [Nat.add_comm]
      obtain ⟨hround, hplace⟩ := (Nat.div_mod_unique (Nat.zero_lt_of_lt hlt)).mpr ⟨hindex, hlt⟩
      refine ⟨file, before, rounds, p, mid, hplace ▸ hfile, hround.symm, hfrom, hrounds, ?_, hseen,
        hrounds.get?_current⟩
      rw [fixingRounds, Run.on_bind_ok hon, hrounds.drive_on]

/-- A file with a call that has a redundant instantiation. -/
def callTree : FileTree := ⟨.ofList [(["a.mo"], .file (.text "f<T>(x)"))]⟩

/-- What a compiler has to say about it. -/
def callReplies : List Reply := [.finished 1 [] "a.mo:1.2-1.5: warning [M0223], redundant"]

/-- A compiler at the root of the tree. -/
def rootCompiler : Compiler := { program := "moc", directory := .ofText "/" }

/-- In the second round the compiler is started on the shadow, where the instantiation is gone. -/
theorem runFixing_checks_current_shadow :
    ∃ inv, ((runFixing rootCompiler rootCompiler.directory ["a.mo"] 3 false true).on
        { tree := callTree, replies := callReplies }).2.invocations[1]? = some inv ∧
      inv.command = rootCompiler.command ".a.mofix.mo" ∧ inv.content = some (.text "f(x)") ∧
      ChecksCurrent rootCompiler ["a.mo"] false { tree := callTree, replies := callReplies } 1 inv := by
  have hsecond : (((runFixing rootCompiler rootCompiler.directory ["a.mo"] 3 false true).on
      { tree := callTree, replies := callReplies }).2.invocations[1]?.map
        fun inv => (inv.command, inv.content))
      = some (rootCompiler.command ".a.mofix.mo", some (.text "f(x)")) := by decide +kernel
  obtain ⟨inv, hinv, heq⟩ := Option.map_eq_some_iff.mp hsecond
  exact ⟨inv, hinv, congrArg Prod.fst heq, congrArg Prod.snd heq,
    (runFixing_checks_current rootCompiler ["a.mo"] 3 false true callTree callReplies).1 1 inv hinv⟩

end CommandLine

end Amend
