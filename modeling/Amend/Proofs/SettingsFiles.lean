import Amend.Proofs.Trees
import Amend.Settings.Load

/-!
# Malformed files of settings

What becomes of a file of settings that cannot be used.  A file whose text is no TOML says as little
as an empty one.  A file that holds no text, and a `pyproject.toml` in which something else stands
where the tables around the settings should be, make loading fail.

"As if the file said nothing" is taken literally: the settings are those for the tree in which the
file has been emptied.  Emptying a file changes neither where files are found
(`nearest?_of_rewrites`) nor what the other file of settings holds, since the two have different
names (`FileTree.locate_ends_with`); so the layers of both trees can be compared file by file
(`load_congr`).  Both layers from files are made in one way, `layerOf`, and differ in what they make
of the entries.
-/

namespace Amend

namespace FileTree

lemma read_of_isFile {tree : FileTree} {p : Path} (h : tree.isFile p = .ok true) :
    ∃ loc content, tree.locate p = .ok loc ∧ tree.entry? loc = some (.file content) := by
  rw [isFile, lookup] at h
  cases hloc : tree.locate p with
  | error cause => cases cause <;> simp [hloc, Except.map] at h
  | ok loc =>
      simp only [hloc, Except.map, Except.ok.injEq] at h
      split at h
      · next content hentry => exact ⟨loc, content, rfl, hentry⟩
      · cases h

lemma read_emptied {tree : FileTree} {p : Path} {loc : Location} {old : Content}
    (hloc : tree.locate p = .ok loc) (hentry : tree.entry? loc = some (.file old)) :
    FileTree.read ⟨tree.entries.insert loc (.file (.text []))⟩ p = .ok (.text []) := by
  have hrewrites := (Rewrites.refl (fun _ => True) tree).rewrite trivial hentry (.text [])
  refine read_eq_ok_iff.mpr ⟨loc, (hrewrites.locate_eq p).trans hloc, ?_⟩
  rw [entry?_of_ne_nil (ne_nil_of_entry?_eq_file hentry), Table.get?_insert, if_pos rfl]

end FileTree

namespace Settings

/-! ## Finding files -/

lemma firstFile?_eq_some {tree : FileTree} {p : Path} : ∀ {paths : List Path},
    firstFile? tree paths = .ok (some p) → p ∈ paths ∧ tree.isFile p = .ok true
  | [], h => by cases h
  | q :: paths, h => by
      rw [firstFile?] at h
      split at h
      · cases h
      · next hfile =>
        cases h
        exact ⟨List.mem_cons_self, hfile⟩
      · obtain ⟨hmem, hfile⟩ := firstFile?_eq_some h
        exact ⟨List.mem_cons_of_mem q hmem, hfile⟩

/-- **The name of a file of settings.** -/
def IsSource (name : Text) : Prop := name = ownFile ∨ name = projectFile

lemma IsSource.parts {name : Text} (h : IsSource name) :
    (Path.ofText name).isAbsolute = false ∧ (Path.ofText name).parts = [name] ∧
      name ≠ ['.', '.'] := by
  rcases h with rfl | rfl <;> decide +kernel

/-- What is found is a file, and has the name that was looked for. -/
lemma nearest?_eq_some {tree : FileTree} {name : Text} {start p : Path} (hname : IsSource name)
    (h : nearest? tree name start = .ok (some p)) :
    tree.isFile p = .ok true ∧ ∃ parts, p.parts = parts ++ [name] := by
  rw [nearest?] at h
  split at h
  · cases h
  · obtain ⟨hmem, hfile⟩ := firstFile?_eq_some h
    obtain ⟨dir, -, rfl⟩ := List.mem_map.mp hmem
    obtain ⟨hrelative, hparts, -⟩ := hname.parts
    refine ⟨hfile, dir.parts, ?_⟩
    rw [Path.under, hrelative, hparts]
    rfl

section

variable {named : Location → Prop} {tree after : FileTree}

lemma firstFile?_of_rewrites (h : FileTree.Rewrites named tree after) : ∀ paths : List Path,
    firstFile? after paths = firstFile? tree paths
  | [] => rfl
  | p :: paths => by
      rw [firstFile?, firstFile?, h.isFile_eq, firstFile?_of_rewrites h paths]

/-- **Files are found where they were**, whatever has been written to them. -/
lemma nearest?_of_rewrites (h : FileTree.Rewrites named tree after) (name : Text) (start : Path) :
    nearest? after name start = nearest? tree name start := by
  rw [nearest?, nearest?, firstFile?_of_rewrites h]

end

/-! ## Layers -/

/-- The layer of the nearest file of a name, given what is made of its entries. -/
def layerOf (make : Toml.Entries → Except SettingsError Layer) (tree : FileTree) (name : Text)
    (start : Path) : Except SettingsError Layer := do
  match ← nearest? tree name start with
  | none => .ok .empty
  | some p => do
    let entries ← readToml tree p
    make entries

/-- What is made of the entries of a `pyproject.toml`. -/
def makeProject (entries : Toml.Entries) : Except SettingsError Layer := do
  let tool ← tableAt entries "tool"
  let own ← tableAt tool "mofix"
  .ok (.ofEntries own)

section

variable {make : Toml.Entries → Except SettingsError Layer} {tree after : FileTree} {name : Text}
  {start p : Path}

lemma projectLayer_eq (tree : FileTree) (start : Path) :
    projectLayer tree start = layerOf makeProject tree projectFile start := rfl

lemma ownLayer_eq (tree : FileTree) (start : Path) :
    ownLayer tree start = layerOf (fun entries => .ok (.ofEntries entries)) tree ownFile start :=
  rfl

lemma layerOf_of_nearest? (h : nearest? tree name start = .ok (some p)) :
    layerOf make tree name start = (readToml tree p).bind make := by
  rw [layerOf, h]
  rfl

lemma layerOf_congr (hnearest : nearest? after name start = nearest? tree name start)
    (hread : ∀ p, nearest? tree name start = .ok (some p) → readToml after p = readToml tree p) :
    layerOf make after name start = layerOf make tree name start := by
  cases hfound : nearest? tree name start with
  | error e => rw [layerOf, layerOf, hnearest, hfound]; rfl
  | ok found =>
      cases found with
      | none => rw [layerOf, layerOf, hnearest, hfound]; rfl
      | some p =>
          rw [layerOf_of_nearest? (hnearest.trans hfound), layerOf_of_nearest? hfound,
            hread p hfound]

/-- **Loading looks at nothing but the nearest files of settings.** -/
lemma load_congr (hnearest : ∀ name, nearest? after name start = nearest? tree name start)
    (hread : ∀ name, IsSource name → ∀ p, nearest? tree name start = .ok (some p) →
      readToml after p = readToml tree p) (env : Environment) (asked : Layer) :
    load after start env asked = load tree start env asked := by
  have hproject : projectLayer after start = projectLayer tree start := by
    rw [projectLayer_eq, projectLayer_eq]
    exact layerOf_congr (hnearest projectFile) (hread projectFile (.inr rfl))
  have hown : ownLayer after start = ownLayer tree start := by
    rw [ownLayer_eq, ownLayer_eq]
    exact layerOf_congr (hnearest ownFile) (hread ownFile (.inl rfl))
  rw [load, load, hproject, hown]

end

/-! ## Failures -/

section

variable {tree : FileTree} {start : Path} {e : SettingsError} (env : Environment) (asked : Layer)

lemma load_of_projectLayer_error (h : projectLayer tree start = .error e) :
    load tree start env asked = .error e := by
  rw [load, h]
  rfl

lemma load_of_ownLayer_error {layer : Layer} (hproject : projectLayer tree start = .ok layer)
    (h : ownLayer tree start = .error e) : load tree start env asked = .error e := by
  rw [load, hproject, h]
  rfl

/-- Where the tables around the settings should be, something else stands. -/
def Misplaced (entries : Toml.Entries) : Prop :=
  (tableAt entries "tool").bind (fun tool => tableAt tool "mofix") = .error .notTable

lemma makeProject_of_misplaced {entries : Toml.Entries} (h : Misplaced entries) :
    makeProject entries = .error .notTable := by
  have hmake : makeProject entries
      = ((tableAt entries "tool").bind fun tool => tableAt tool "mofix").bind
          fun own => .ok (.ofEntries own) := by
    rw [makeProject]
    cases tableAt entries "tool" <;> rfl
  rw [hmake, h]
  rfl

end

/-! ## Malformed files -/

/-- **What becomes of a malformed file of settings.**  If the nearest file of its kind is text that
is no TOML, everything is as if that file were empty.  A file that holds no text is not ignored, and
neither is one in which something else stands where the tables around the settings should be. -/
theorem load_malformed (tree : FileTree) (start p : Path) (env : Environment) (asked : Layer)
    (name : Text) (hname : IsSource name) (hnearest : nearest? tree name start = .ok (some p)) :
    ∃ content emptied, tree.read p = .ok content ∧ tree.write p (.text []) = .ok emptied ∧
      (∀ t, content.toText = .ok t → Toml.parse t = .error .malformed →
        load tree start env asked = load emptied start env asked) ∧
      (∀ e, content.toText = .error e →
        (name = projectFile ∨ ∃ layer, projectLayer tree start = .ok layer) →
          load tree start env asked = .error (.undecodable e)) ∧
      ∀ t entries, content.toText = .ok t → Toml.parse t = .ok entries → Misplaced entries →
        name = projectFile → load tree start env asked = .error .notTable := by
  obtain ⟨hfile, parts, hparts⟩ := nearest?_eq_some hname hnearest
  obtain ⟨loc, content, hloc, hentry⟩ := FileTree.read_of_isFile hfile
  have hread : tree.read p = .ok content := FileTree.read_eq_ok_iff.mpr ⟨loc, hloc, hentry⟩
  refine ⟨content, _, hread, FileTree.write_of_file hloc hentry _, ?_, ?_, ?_⟩
  · intro t htext hmalformed
    have hrewrites := (FileTree.Rewrites.refl (· = loc) tree).rewrite rfl hentry (.text [])
    refine (load_congr (nearest?_of_rewrites hrewrites · start) ?_ env asked).symm
    intro other hother q hq
    by_cases hsame : other = name
    · -- Neither the text nor its absence says anything.
      subst hsame
      obtain rfl : p = q := Option.some.inj (Except.ok.inj (hnearest.symm.trans hq))
      rw [readToml, readToml, hread, FileTree.read_emptied hloc hentry]
      simp only [htext, hmalformed]
      rfl
    · -- The other file has another name, so it is another file.
      obtain ⟨-, dirs, hdirs⟩ := nearest?_eq_some hother hq
      have hkept := hrewrites.read_eq fun loc' hloc' heq => hsame <| by
        have hlast := FileTree.locate_ends_with hother.parts.2.2 hdirs hloc'
        rw [heq, FileTree.locate_ends_with hname.parts.2.2 hparts hloc] at hlast
        exact (Option.some.inj hlast).symm
      rw [readToml, readToml, hkept]
  · intro e htext hfirst
    have herror : readToml tree p = .error (.undecodable e) := by
      rw [readToml, hread]
      simp only [htext]
    have hlayer : ∀ make, layerOf make tree name start = .error (.undecodable e) := by
      intro make
      rw [layerOf_of_nearest? hnearest, herror]
      rfl
    rcases hname with rfl | rfl
    · obtain ⟨layer, hproject⟩ := hfirst.resolve_left (by decide)
      exact load_of_ownLayer_error env asked hproject ((ownLayer_eq tree start).trans (hlayer _))
    · exact load_of_projectLayer_error env asked ((projectLayer_eq tree start).trans (hlayer _))
  · rintro t entries htext hparse hmisplaced rfl
    have hentries : readToml tree p = .ok entries := by
      rw [readToml, hread]
      simp only [htext, hparse]
    have hlayer : projectLayer tree start = .error .notTable := by
      rw [projectLayer_eq, layerOf_of_nearest? hnearest, hentries]
      exact makeProject_of_misplaced hmisplaced
    exact load_of_projectLayer_error env asked hlayer

/-- Why something failed, if it did. -/
def failure? {ε α : Type} : Except ε α → Option ε
  | .ok _ => none
  | .error e => some e

lemma eq_error_of_failure? {ε α : Type} {x : Except ε α} {e : ε} (h : failure? x = some e) :
    x = .error e := by
  cases x with
  | ok a => cases h
  | error e' => rw [Option.some.inj h]

/-- A limit on rounds above, and below it a line that breaks off. -/
def brokenTree : FileTree :=
  ⟨.ofList [(["pyproject.toml"], .file (.text "[tool.mofix]\nmax_iterations = 4")),
    (["work"], .directory), (["work", ".mofixrc"], .file (.text "max_iterations = "))]⟩

theorem load_malformed_line : ∃ emptied,
    brokenTree.write (.ofText "/work/.mofixrc") (.text []) = .ok emptied ∧
      load brokenTree (.ofText "/work") [] .empty = load emptied (.ofText "/work") [] .empty ∧
      (load emptied (.ofText "/work") [] .empty).toOption.map Settings.rounds = some 4 := by
  obtain ⟨content, emptied, hread, hwrite, hignored, -⟩ := load_malformed brokenTree
    (.ofText "/work") (.ofText "/work/.mofixrc") [] .empty ownFile (.inl rfl) (by decide +kernel)
  have hcontent : brokenTree.read (.ofText "/work/.mofixrc")
      = .ok (.text "max_iterations = ".toList) := by decide +kernel
  obtain rfl := Except.ok.inj (hcontent.symm.trans hread)
  have hload := hignored "max_iterations = ".toList rfl (eq_error_of_failure? (by decide +kernel))
  refine ⟨emptied, hwrite, hload, ?_⟩
  rw [← hload]
  decide +kernel

/-- A file that holds no text. -/
def binaryTree : FileTree := ⟨.ofList [([".mofixrc"], .file (.binary [0xFF]))]⟩

/-- A file with a number where a table should be. -/
def numberTree : FileTree := ⟨.ofList [(["pyproject.toml"], .file (.text "tool = 1"))]⟩

/-- Neither file is ignored, though there would be settings if it were empty. -/
theorem load_refused :
    nearest? binaryTree ownFile (.ofText "/") = .ok (some (.ofText "/.mofixrc")) ∧
      load binaryTree (.ofText "/") [] .empty = .error (.undecodable ⟨0, 1, 0xFF, .badStart⟩) ∧
      (∃ emptied, binaryTree.write (.ofText "/.mofixrc") (.text []) = .ok emptied ∧
        (load emptied (.ofText "/") [] .empty).isOk = true) ∧
      nearest? numberTree projectFile (.ofText "/") = .ok (some (.ofText "/pyproject.toml")) ∧
      load numberTree (.ofText "/") [] .empty = .error .notTable ∧
      ∃ emptied, numberTree.write (.ofText "/pyproject.toml") (.text []) = .ok emptied ∧
        (load emptied (.ofText "/") [] .empty).isOk = true := by
  refine ⟨by decide +kernel, eq_error_of_failure? (by decide +kernel), ?_, by decide +kernel,
    eq_error_of_failure? (by decide +kernel), ?_⟩
  · exact ⟨_, rfl, by decide +kernel⟩
  · exact ⟨_, rfl, by decide +kernel⟩

end Settings

end Amend
