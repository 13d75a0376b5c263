import Amend.Proofs.RestoredPaths
import Mathlib.Data.List.Perm.Subperm
import Mathlib.Data.Nat.Find

/-!
# The search for the name of a shadow

A shadow gets the first name that is free: `.Main.mofix.mo`, then `.Main.mofix1.mo` and so on.  No
number of attempts is fixed in advance, and still the search ends.

**The names.**  All attempts have different names (`nameFor_injective`), whatever the stem of the
file looks like, since only the label between the mark and the suffix changes.  All of them stand in
the directory of the file, and the path that is printed for one is read back as the same path
(`ofText_toText_attempt`).

**The end of the search.**  A path leads to a place of its own name, so attempts that name something
name different entries of the tree.  There are only so many of them (`exists_free`).

**The search itself.**  `unusedFrom_on` follows it from attempt to attempt.  The one thing that can
stop it is a name that is too long for the system to look up.  Such a name is free, and so is every
path of which it is a part; the search fails where it meets the first of them.  It never runs out of
attempts (`unusedFrom_first`), so the fault for this does not arise.
-/

namespace Amend

/-! ## Paths that are printed and read again -/

namespace Path

/-- A path as reading makes it. -/
structure Clean (p : Path) : Prop where
  root : p.root = [] ∨ p.root = ['/'] ∨ p.root = ['/', '/']
  parts : ∀ part ∈ p.parts, part ≠ [] ∧ part ≠ ['.'] ∧ '/' ∉ part

lemma clean_ofText (t : Text) : (ofText t).Clean := by
  constructor
  · rw [ofText]
    split
    · exact .inl rfl
    · exact .inr (.inr rfl)
    · exact .inr (.inl rfl)
  · intro part hpart
    obtain ⟨hpiece, hkept⟩ := List.mem_filter.mp hpart
    simp only [Bool.and_eq_true, Bool.not_eq_true', List.isEmpty_eq_false_iff,
      decide_eq_true_eq] at hkept
    exact ⟨hkept.1, hkept.2, (Text.of_mem_splitOn t part hpiece).1⟩

variable {p : Path}

lemma Clean.withName (h : p.Clean) {name : Text} (hne : name ≠ []) (hdot : name ≠ ['.'])
    (hslash : '/' ∉ name) : (p.withName name).Clean := by
  refine ⟨h.root, fun part hpart => ?_⟩
  rcases List.mem_append.mp hpart with hpart | hpart
  · exact h.parts part (List.mem_of_mem_dropLast hpart)
  · obtain rfl := List.mem_singleton.mp hpart
    exact ⟨hne, hdot, hslash⟩

/-- The slashes of the root are ends of empty components. -/
lemma Clean.exists_pieces (h : p.Clean) (hne : p.parts ≠ []) :
    ∃ pieces : List Text, (∀ piece ∈ pieces, piece = []) ∧
      p.root ++ Text.joinWith ['/'] p.parts = Text.joinWith ['/'] (pieces ++ p.parts) := by
  obtain ⟨part, parts, hparts⟩ := List.exists_cons_of_ne_nil hne
  rw [hparts]
  rcases h.root with hroot | hroot | hroot
  · exact ⟨[], by simp, by rw [hroot]; rfl⟩
  · refine ⟨[[]], by simp, ?_⟩
    rw [hroot]
    exact (Text.joinWith_cons_cons ['/'] [] part parts).symm
  · refine ⟨[[], []], by simp, ?_⟩
    have hinner := Text.joinWith_cons_cons ['/'] [] part parts
    rw [hroot]
    exact ((Text.joinWith_cons_cons ['/'] [] [] (part :: parts)).trans
      (congrArg (['/'] ++ ·) hinner)).symm

/-- **A path is read back** from what is printed for it. -/
lemma Clean.ofText_toText (h : p.Clean) (hne : p.parts ≠ []) : ofText p.toText = p := by
  obtain ⟨pieces, hempty, hjoin⟩ := h.exists_pieces hne
  obtain ⟨part, parts, hparts⟩ := List.exists_cons_of_ne_nil hne
  obtain ⟨hpart, -, hslash⟩ := h.parts part (hparts ▸ List.mem_cons_self)
  obtain ⟨c, cs, rfl⟩ := List.exists_cons_of_ne_nil hpart
  have hc : c ≠ '/' := fun heq => hslash (heq ▸ List.mem_cons_self)
  obtain ⟨rest, hrest⟩ : ∃ rest, Text.joinWith ['/'] p.parts = c :: rest := by
    rw [hparts]
    cases parts with
    | nil => exact ⟨cs, by simp [Text.joinWith]⟩
    | cons part' parts => exact ⟨_, by rw [Text.joinWith_cons_cons]; rfl⟩
  have htext : p.toText = p.root ++ Text.joinWith ['/'] p.parts := by
    rw [toText]
    split
    · next hnil => rw [hrest] at hnil; simp at hnil
    · rfl
  have hlead : p.toText.takeWhile (· == '/') = p.root := by
    have hall : ∀ d ∈ p.root, (d == '/') = true := by
      intro d hd
      rcases h.root with hroot | hroot | hroot <;> rw [hroot] at hd <;> simp_all
    rw [htext, List.takeWhile_append_of_pos hall, hrest,
      List.takeWhile_cons_of_neg (by simpa using hc), List.append_nil]
  have hsplit : p.toText.splitOn '/' = pieces ++ p.parts := by
    rw [htext, hjoin, Text.joinWith]
    refine List.splitOn_intercalate '/' (fun piece hpiece => ?_) (by simp [hne])
    rcases List.mem_append.mp hpiece with hpiece | hpiece
    · rw [hempty piece hpiece]
      exact List.not_mem_nil
    · exact (h.parts piece hpiece).2.2
  have hfilter : (pieces ++ p.parts).filter (fun part => !part.isEmpty && part ≠ ['.'])
      = p.parts := by
    rw [List.filter_append]
    have hnone : pieces.filter (fun part => !part.isEmpty && part ≠ ['.']) = [] :=
      List.filter_eq_nil_iff.mpr fun piece hpiece => by simp [hempty piece hpiece]
    have hall : p.parts.filter (fun part => !part.isEmpty && part ≠ ['.']) = p.parts :=
      List.filter_eq_self.mpr fun part hpart => by
        obtain ⟨hne, hdot, -⟩ := h.parts part hpart
        simp [hne, hdot]
    rw [hnone, hall, List.nil_append]
  have hroot : (ofText p.toText).root = p.root := by
    rw [ofText, hlead]
    rcases h.root with hroot | hroot | hroot <;> rw [hroot] <;> rfl
  have hkept : (ofText p.toText).parts = p.parts := by rw [ofText, hsplit, hfilter]
  calc ofText p.toText = ⟨(ofText p.toText).root, (ofText p.toText).parts⟩ := rfl
    _ = p := by rw [hroot, hkept]

end Path

/-! ## What a path names -/

namespace FileTree

variable {tree : FileTree} {p : Path}

/-- The path leads to a file or a directory that is there. -/
def Names (tree : FileTree) (p : Path) : Prop := ∃ entry, tree.lookup p = .ok (some entry)

/-- The path, or a component on the way, is longer than the system allows. -/
def TooLong (tree : FileTree) (p : Path) : Prop := tree.locate p = .error .nameTooLong

lemma names_iff : tree.Names p ↔
    ∃ loc entry, tree.locate p = .ok loc ∧ tree.entry? loc = some entry := by
  rw [Names, lookup]
  cases hloc : tree.locate p with
  | error cause => cases cause <;> simp
  | ok loc => simp

lemma pathExists_of_names (h : tree.Names p) : tree.pathExists p = .ok true := by
  obtain ⟨entry, hentry⟩ := h
  rw [pathExists, hentry]
  rfl

lemma pathExists_of_tooLong (h : tree.TooLong p) :
    tree.pathExists p = .error ⟨.nameTooLong, p.toText⟩ := by
  rw [pathExists, lookup, h]
  rfl

/-- A path that names nothing is found free, unless it is too long to be followed. -/
lemma pathExists_of_not_names (h : ¬ tree.Names p) (hlong : ¬ tree.TooLong p) :
    tree.pathExists p = .ok false := by
  rw [names_iff] at h
  rw [TooLong] at hlong
  rw [pathExists, lookup]
  cases hloc : tree.locate p with
  | error cause => cases cause <;> first | rfl | exact absurd hloc hlong
  | ok loc =>
      cases hentry : tree.entry? loc with
      | none =>
          show (Except.ok (tree.entry? loc)).map Option.isSome = _
          rw [hentry]
          rfl
      | some entry => exact absurd ⟨loc, entry, hloc, hentry⟩ h

end FileTree

namespace Shadow

/-! ## The names that are tried -/

lemma labelAt_injective : Function.Injective labelAt := by
  intro m n h
  cases m with
  | zero =>
      cases n with
      | zero => rfl
      | succ n => exact absurd h.symm Nat.toDigits_ne_nil
  | succ m =>
      cases n with
      | zero => exact absurd h Nat.toDigits_ne_nil
      | succ n =>
          have hread := congrArg (fun digits => Nat.ofDigitChars 10 digits 0) h
          simpa only [labelAt, Text.ofNat, Nat.ofDigitChars_toDigits (by decide : 1 < 10)
            (by decide : 10 ≤ 10)] using hread

/-- **No name is tried twice**, whatever the stem and the suffix are. -/
lemma nameFor_injective (name : Text) :
    Function.Injective fun n => nameFor (labelAt n) name := by
  intro m n h
  exact labelAt_injective (List.append_cancel_left (List.append_cancel_right h))

lemma length_nameFor (label name : Text) : 6 < (nameFor label name).length := by
  have hmark : (".mofix" : Text).length = 6 := rfl
  simp only [nameFor, List.length_append, List.length_cons, hmark]
  omega

/-- The path of an attempt at a shadow for a file with a name. -/
def attempt (file name : Text) (n : Nat) : Path :=
  (Path.ofText file).withName (nameFor (labelAt n) name)

section

variable {file name : Text} (hname : (Path.ofText file).name? = some name)

include hname

lemma pathWith?_labelAt (n : Nat) :
    pathWith? (labelAt n) (.ofText file) = some (attempt file name n) := by
  rw [pathWith?, hname]
  rfl

/-- **What is printed for an attempt** is read back as the same path. -/
lemma ofText_toText_attempt (n : Nat) :
    Path.ofText (attempt file name n).toText = attempt file name n := by
  have hlength := length_nameFor (labelAt n) name
  have hne : nameFor (labelAt n) name ≠ [] := fun h => by simp [h] at hlength
  have hdot : nameFor (labelAt n) name ≠ ['.'] := fun h => by simp [h] at hlength
  have hslash := not_mem_nameFor (by decide) (by decide) (by decide) (Path.name?_ofText hname).2.1 n
  refine ((Path.clean_ofText file).withName hne hdot hslash).ofText_toText ?_
  simp [Path.withName]

end

/-! ## One of them is free -/

section

variable (base : Path) (file name : Text) (tree : FileTree)

/-- An attempt that names something names an entry of its own name. -/
lemma exists_entry_of_names {n : Nat} (h : tree.Names (base.under (attempt file name n))) :
    ∃ loc ∈ tree.entries.keys, loc.getLast? = some (nameFor (labelAt n) name) := by
  obtain ⟨loc, entry, hloc, hentry⟩ := FileTree.names_iff.mp h
  have hup : nameFor (labelAt n) name ≠ ['.', '.'] := fun heq => by
    have hlength := length_nameFor (labelAt n) name
    simp [heq] at hlength
  obtain ⟨parts, hparts⟩ : ∃ parts, (base.under (attempt file name n)).parts
      = parts ++ [nameFor (labelAt n) name] := by
    rw [Path.under]
    split
    · exact ⟨_, rfl⟩
    · exact ⟨_, (List.append_assoc _ _ _).symm⟩
  have hlast := FileTree.locate_ends_with hup hparts hloc
  have hne : loc ≠ [] := by
    rintro rfl
    cases hlast
  rw [FileTree.entry?_of_ne_nil hne] at hentry
  refine ⟨loc, (Table.isSome_get?_iff _ _).mp ?_, hlast⟩
  rw [hentry]
  rfl

/-- **One attempt more than there are entries** cannot all name something. -/
lemma exists_free :
    ∃ n ≤ tree.entries.size, ¬ tree.Names (base.under (attempt file name n)) := by
  by_contra! hall
  choose! loc hmem hlast using fun n hn => exists_entry_of_names base file name tree (hall n hn)
  have hnodup : ((List.range (tree.entries.size + 1)).map loc).Nodup := by
    refine List.Nodup.map_on (fun m hm n hn heq => ?_) List.nodup_range
    have hm := hlast m (Nat.le_of_lt_succ (List.mem_range.mp hm))
    have hn := hlast n (Nat.le_of_lt_succ (List.mem_range.mp hn))
    rw [heq, hn] at hm
    exact (nameFor_injective name (Option.some.inj hm)).symm
  have hsubset : (List.range (tree.entries.size + 1)).map loc ⊆ tree.entries.keys := by
    intro l hl
    obtain ⟨n, hn, rfl⟩ := List.mem_map.mp hl
    exact hmem n (Nat.le_of_lt_succ (List.mem_range.mp hn))
  have hlength := (hnodup.subperm hsubset).length_le
  rw [List.length_map, List.length_range, Table.keys, List.length_map] at hlength
  exact absurd hlength (Nat.not_succ_le_self _)

/-- **The first attempt that names nothing.** -/
lemma exists_first_free : ∃ n ≤ tree.entries.size,
    (∀ m < n, tree.Names (base.under (attempt file name m))) ∧
      ¬ tree.Names (base.under (attempt file name n)) := by
  classical
  have hfree : ∃ n, ¬ tree.Names (base.under (attempt file name n)) :=
    (exists_free base file name tree).imp fun _ h => h.2
  refine ⟨Nat.find hfree, ?_, fun m hm => not_not.mp (Nat.find_min hfree hm), Nat.find_spec hfree⟩
  obtain ⟨n, hle, hn⟩ := exists_free base file name tree
  exact (Nat.find_min' hfree hn).trans hle

end

/-! ## The search -/

section

variable {base : Path} {file name : Text} (hname : (Path.ofText file).name? = some name)
  {bench : Workbench}

include hname

/-- **One attempt** is looked up; what is found decides how the search goes on. -/
lemma unusedFrom_succ (n more : Nat) : (unusedFrom base (.ofText file) n (more + 1)).on bench =
    match bench.tree.pathExists (base.under (attempt file name n)) with
    | .ok true => (unusedFrom base (.ofText file) (n + 1) more).on bench
    | .ok false => (.ok (attempt file name n).toText, bench)
    | .error e => (.error (.file e), bench) := by
  rw [unusedFrom, pathWith?_labelAt hname]
  show (Run.pathExists _ >>= _).on bench = _
  rw [Run.on_bind, Run.on_pathExists]
  cases bench.tree.pathExists (base.under (attempt file name n)) with
  | error e => rfl
  | ok found => cases found <;> rfl

/-- **From attempt to attempt.**  The search passes over all attempts that name something. -/
lemma unusedFrom_on (more : Nat) : ∀ n : Nat,
    (∀ m < n, bench.tree.Names (base.under (attempt file name m))) →
      (unusedFrom base (.ofText file) 0 (n + more)).on bench
        = (unusedFrom base (.ofText file) n more).on bench
  | 0, _ => by rw [Nat.zero_add]
  | n + 1, h => by
      have hbefore := unusedFrom_on (more + 1) n fun m hm => h m (Nat.lt_succ_of_lt hm)
      have hnext := FileTree.pathExists_of_names (h n (Nat.lt_succ_self n))
      rw [Nat.add_right_comm, Nat.add_assoc, hbefore, unusedFrom_succ hname, hnext]

/-- **The answer of the search** is decided at the first attempt that names nothing, whatever bound
above it the search is given. -/
lemma unusedFrom_first {n more : Nat}
    (hbefore : ∀ m < n, bench.tree.Names (base.under (attempt file name m)))
    (hfree : ¬ bench.tree.Names (base.under (attempt file name n))) (hmore : n < more) :
    (¬ bench.tree.TooLong (base.under (attempt file name n)) →
        (unusedFrom base (.ofText file) 0 more).on bench
          = (.ok (attempt file name n).toText, bench)) ∧
      (bench.tree.TooLong (base.under (attempt file name n)) →
        (unusedFrom base (.ofText file) 0 more).on bench
          = (.error (.file ⟨.nameTooLong, (base.under (attempt file name n)).toText⟩), bench)) := by
  obtain ⟨rest, rfl⟩ := Nat.exists_eq_add_of_lt hmore
  rw [Nat.add_assoc, unusedFrom_on hname (rest + 1) n hbefore, unusedFrom_succ hname]
  constructor
  · intro hlong
    rw [FileTree.pathExists_of_not_names hfree hlong]
  · intro hlong
    rw [FileTree.pathExists_of_tooLong hlong]

end

lemma unused_on (base : Path) (file : Text) (bench : Workbench) : (unused base file).on bench
    = (unusedFrom base (.ofText file) 0 (bench.tree.entries.size + 1)).on bench := by
  rw [unused, Run.on_bind_ok (Run.on_get bench)]

/-- If the first attempt is too long, the search fails at once. -/
lemma unused_of_tooLong {base : Path} {file name text : Text}
    (hname : (Path.ofText file).name? = some name) (bench : Workbench)
    (hlong : bench.tree.TooLong (base.under (attempt file name 0)))
    (htext : (base.under (attempt file name 0)).toText = text) :
    (unused base file).on bench = (.error (.file ⟨.nameTooLong, text⟩), bench) := by
  rw [unused_on, unusedFrom_succ hname, FileTree.pathExists_of_tooLong hlong, htext]

/-- **The search for the name of a shadow ends**, after no more attempts than there are entries in
the tree, at the first attempt that names nothing.  That is its answer, if the system can look it up;
if it is too long for that, the search fails and says so.  No bound is needed to end it: with any
higher bound it ends in the same way.  All attempts have different names: a dot, the stem of the
file, the mark, a number from the second attempt on, and the suffix of the file; and all stand in the
directory of the file. -/
theorem unused_first_free (base : Path) (file name : Text) (bench : Workbench)
    (hname : (Path.ofText file).name? = some name) :
    let tried (n : Nat) : Text := (attempt file name n).toText
    let place (n : Nat) : Path := base.under (.ofText (tried n))
    (∃ n ≤ bench.tree.entries.size,
      (∀ m < n, bench.tree.Names (place m)) ∧ ¬ bench.tree.Names (place n) ∧
      (¬ bench.tree.TooLong (place n) →
        (unused base file).on bench = (.ok (tried n), bench)) ∧
      (bench.tree.TooLong (place n) → (unused base file).on bench
        = (.error (.file ⟨.nameTooLong, (place n).toText⟩), bench)) ∧
      ∀ more > n, (unusedFrom base (.ofText file) 0 more).on bench
        = (unused base file).on bench) ∧
    Function.Injective tried ∧
    ∀ n, (Path.ofText (tried n)).parent = (Path.ofText file).parent ∧
      (Path.ofText (tried n)).name? = some ('.' :: (Path.splitName name).1 ++ ".mofix" ++
        (if n = 0 then [] else Text.ofNat n) ++ (Path.splitName name).2) ∧
      (Path.splitName name).2 <:+ tried n := by
  intro tried place
  have hread : ∀ n, Path.ofText (tried n) = attempt file name n := ofText_toText_attempt hname
  have hplace : ∀ n, place n = base.under (attempt file name n) := fun n =>
    congrArg base.under (hread n)
  have htext : ∀ n, tried n = (Path.ofText file).directory ++ nameFor (labelAt n) name := fun n =>
    Path.toText_withName _ (List.ne_nil_of_length_pos
      (Nat.lt_of_le_of_lt (Nat.zero_le 6) (length_nameFor (labelAt n) name)))
  refine ⟨?_, fun m n h => ?_, fun n => ⟨?_, ?_, ?_⟩⟩
  · simp only [hplace]
    obtain ⟨n, hle, hbefore, hfree⟩ := exists_first_free base file name bench.tree
    obtain ⟨hfound, hfailed⟩ := unusedFrom_first hname hbefore hfree (Nat.lt_succ_of_le hle)
    rw [unused_on]
    refine ⟨n, hle, hbefore, hfree, hfound, hfailed, fun more hmore => ?_⟩
    obtain ⟨hfound', hfailed'⟩ := unusedFrom_first hname hbefore hfree hmore
    by_cases hlong : bench.tree.TooLong (base.under (attempt file name n))
    · rw [hfailed hlong, hfailed' hlong]
    · rw [hfound hlong, hfound' hlong]
  · have hsame : tried m = tried n := h
    rw [htext, htext] at hsame
    exact nameFor_injective name (List.append_cancel_left hsame)
  · rw [hread, attempt, Path.withName, Path.parent, Path.parent, List.dropLast_concat]
  · rw [hread, attempt, Path.withName, Path.name?, List.getLast?_concat, nameFor]
    cases n <;> rfl
  · rw [htext, nameFor]
    exact (List.suffix_append _ _).trans (List.suffix_append _ _)

/-- The first two names are taken, one of them by a directory, so the third one is the answer. -/
theorem unused_first_free_third :
    let tree : FileTree := ⟨.ofList [(["lib"], .directory), (["lib", "a.mo"], .file (.text "1")),
      (["lib", ".a.mofix.mo"], .directory), (["lib", ".a.mofix1.mo"], .file (.text "mine"))]⟩
    let tried (n : Nat) : Text := (attempt "lib/a.mo" "a.mo" n).toText
    let place (n : Nat) : Path := Path.under (.ofText "/") (.ofText (tried n))
    (Path.ofText "lib/a.mo").name? = some "a.mo" ∧
      ∃ n ≤ 4, (∀ m < n, tree.Names (place m)) ∧ ¬ tree.Names (place n) ∧
        tried n = "lib/.a.mofix2.mo" ∧
        (unused (.ofText "/") "lib/a.mo").on { tree } = (.ok (tried n), { tree }) := by
  intro tree tried place
  have hname : (Path.ofText "lib/a.mo").name? = some "a.mo".toList := by decide
  have hvalue : ((unused (.ofText "/") "lib/a.mo").on { tree }).1.toOption
      = some "lib/.a.mofix2.mo".toList := by decide +kernel
  obtain ⟨⟨n, hle, hbefore, hfree, hfound, hfailed, -⟩, -, -⟩ :=
    unused_first_free (.ofText "/") "lib/a.mo" "a.mo" { tree } hname
  have hon : (unused (.ofText "/") "lib/a.mo").on { tree } = (.ok (tried n), { tree }) := by
    refine hfound fun hlong => ?_
    rw [hfailed hlong] at hvalue
    cases hvalue
  rw [hon] at hvalue
  exact ⟨hname, n, hle, hbefore, hfree, Option.some.inj hvalue, hon⟩

/-- **A file whose shadow would have too long a name.**  The file is there, and its own name is short
enough, but the search for the name of its shadow fails. -/
theorem unused_long_name :
    let file : Text := List.replicate 250 'a' ++ ".mo"
    let shadow : Text := '.' :: List.replicate 250 'a' ++ ".mofix.mo"
    let tree : FileTree := ⟨.ofList [([file], .file (.text "x"))]⟩
    (Path.ofText file).name? = some file ∧ tree.entry? [file] = some (.file (.text "x")) ∧
      FileTree.octetCount file ≤ FileTree.maxNameOctets ∧
      (unused (.ofText "/") file).on { tree }
        = (.error (.file ⟨.nameTooLong, '/' :: shadow⟩), { tree }) := by
  intro file shadow tree
  have hname : (Path.ofText file).name? = some file := by decide +kernel
  have hpath : Path.under (.ofText "/") (attempt file file 0) = ⟨['/'], [shadow]⟩ := by
    decide +kernel
  have hlong : tree.TooLong (Path.under (.ofText "/") (attempt file file 0)) := by
    rw [hpath, FileTree.TooLong, FileTree.locate, if_neg (by decide +kernel),
      if_neg (by decide +kernel), FileTree.walk, if_neg (by decide +kernel),
      if_pos (by decide +kernel)]
  have htext : (Path.under (.ofText "/") (attempt file file 0)).toText = '/' :: shadow := by
    decide +kernel
  exact ⟨hname, by decide +kernel, by decide +kernel,
    unused_of_tooLong hname { tree } hlong htext⟩

end Shadow

end Amend
