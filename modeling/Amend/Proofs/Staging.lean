import Amend.Proofs.Effects
import Amend.Proofs.Trees
import Amend.Shadow

/-!
# Shadows and what they hold

New texts are staged in shadows, files that were not there before.  The table of shadows and the
file tree have to agree at every moment, also where staging is interrupted:

* `Shadow.Kept`: the tree is the one from before with one further file for each shadow in the table.
  Two shadows never are the same file (`Kept.loc_eq_iff`).
* `Shadow.Staged`: the shadows hold the present texts of a table, and the files without a shadow
  have not changed.  Staging a text is entering it in that table (`stage_triple`).
* `cleanup_on`: after all shadows have been removed the tree is the one from before, and nothing can
  fail on the way.
-/

namespace Amend.Shadow

open Run (Triple Keeps OnlyPrints)

/-- A shadow in use. -/
structure Shade where
  /-- The file that it stands for. -/
  file : Text
  /-- The path of the shadow, as the compiler gets it. -/
  path : Text
  /-- Where the path leads. -/
  loc : Location
  /-- What the shadow holds. -/
  text : Text

namespace Shade

/-- The shadow with another text, if it is the one of a file. -/
def retext (file text : Text) (s : Shade) : Shade :=
  if s.file = file then { s with text } else s

@[simp]
lemma retext_file (file text : Text) (s : Shade) : (s.retext file text).file = s.file := by
  unfold retext
  split <;> rfl

@[simp]
lemma retext_path (file text : Text) (s : Shade) : (s.retext file text).path = s.path := by
  unfold retext
  split <;> rfl

@[simp]
lemma retext_loc (file text : Text) (s : Shade) : (s.retext file text).loc = s.loc := by
  unfold retext
  split <;> rfl

lemma retext_text (file text : Text) (s : Shade) :
    (s.retext file text).text = if s.file = file then text else s.text := by
  unfold retext
  split <;> rfl

end Shade

/-! ## The table and the tree agree -/

/-- **The shadows of a workbench.**  The table names each of them with its file, and the tree is
`base` with these files behind all entries. -/
structure Kept (dir : Path) (base : FileTree) (shades : List Shade) (bench : Workbench) : Prop where
  entries_eq : bench.shadows.entries = shades.map fun s => (s.file, s.path)
  adds : base.Adds (shades.map fun s => (s.loc, s.text)) bench.tree
  locate_eq : ∀ s ∈ shades, base.locate (dir.under (.ofText s.path)) = .ok s.loc

namespace Kept

variable {dir : Path} {base : FileTree} {shades : List Shade} {bench after : Workbench}

lemma congr (h : Kept dir base shades bench) (htree : after.tree = bench.tree)
    (hshadows : after.shadows = bench.shadows) : Kept dir base shades after :=
  ⟨hshadows ▸ h.entries_eq, htree ▸ h.adds, h.locate_eq⟩

lemma nodup_file (h : Kept dir base shades bench) : (shades.map (·.file)).Nodup := by
  have hnodup := bench.shadows.nodup
  rwa [h.entries_eq, List.map_map] at hnodup

lemma nodup_loc (h : Kept dir base shades bench) : (shades.map (·.loc)).Nodup := by
  have hnodup := (List.nodup_append.mp h.adds.nodup).2.1
  rwa [List.map_map] at hnodup

/-- **Shadows of different files are different files.** -/
lemma loc_eq_iff (h : Kept dir base shades bench) {r s : Shade} (hr : r ∈ shades)
    (hs : s ∈ shades) : r.loc = s.loc ↔ r.file = s.file := by
  constructor
  · intro heq
    rw [List.inj_on_of_nodup_map h.nodup_loc hr hs heq]
  · intro heq
    rw [List.inj_on_of_nodup_map h.nodup_file hr hs heq]

lemma mem_of_get? (h : Kept dir base shades bench) {file path : Text}
    (hget : bench.shadows.get? file = some path) :
    ∃ s ∈ shades, s.file = file ∧ s.path = path := by
  have hmem := Table.mem_of_get? hget
  rw [h.entries_eq] at hmem
  obtain ⟨s, hs, heq⟩ := List.mem_map.mp hmem
  exact ⟨s, hs, congrArg Prod.fst heq, congrArg Prod.snd heq⟩

lemma get?_eq_none_iff (h : Kept dir base shades bench) {file : Text} :
    bench.shadows.get? file = none ↔ ∀ s ∈ shades, s.file ≠ file := by
  rw [Table.get?_eq_none_iff, Table.keys, h.entries_eq, List.map_map]
  simp

/-- The path of a shadow leads to it, in the larger tree as in the smaller one. -/
lemma locate_tree (h : Kept dir base shades bench) {s : Shade} (hs : s ∈ shades) :
    bench.tree.locate (dir.under (.ofText s.path)) = .ok s.loc :=
  h.adds.sameDirectories.locate (h.locate_eq s hs)

lemma entry?_loc (h : Kept dir base shades bench) {s : Shade} (hs : s ∈ shades) :
    bench.tree.entry? s.loc = some (.file (.text s.text)) :=
  h.adds.entry?_file (List.mem_map.mpr ⟨s, hs, rfl⟩)

/-- The compiler that gets the path of a shadow reads its text. -/
lemma read_path (h : Kept dir base shades bench) {s : Shade} (hs : s ∈ shades) :
    bench.tree.read (dir.under (.ofText s.path)) = .ok (.text s.text) :=
  FileTree.read_eq_ok_iff.mpr ⟨s.loc, h.locate_tree hs, h.entry?_loc hs⟩

/-- A file of the smaller tree is read as it was. -/
lemma read_base (h : Kept dir base shades bench) {p : Path} {content : Content}
    (hread : base.read p = .ok content) : bench.tree.read p = .ok content := by
  obtain ⟨loc, hloc, hentry⟩ := FileTree.read_eq_ok_iff.mp hread
  exact FileTree.read_eq_ok_iff.mpr
    ⟨loc, h.adds.sameDirectories.locate hloc, h.adds.entry?_base hentry⟩

/-- A shadow may get another text. -/
lemma retext (h : Kept dir base shades bench) {s : Shade} (hs : s ∈ shades) (text : Text) :
    Kept dir base (shades.map (Shade.retext s.file text))
      { bench with tree := ⟨bench.tree.entries.insert s.loc (.file (.text text))⟩ } where
  entries_eq := by
    rw [List.map_map]
    simpa [Function.comp_def] using h.entries_eq
  adds := by
    have hwrite := h.adds.write (List.mem_map.mpr ⟨s, hs, rfl⟩) text
    have hfiles : Table.overwrite (shades.map fun s => (s.loc, s.text)) s.loc text
        = (shades.map (Shade.retext s.file text)).map fun s => (s.loc, s.text) := by
      rw [Table.overwrite, List.map_map, List.map_map]
      refine List.map_congr_left fun r hr => ?_
      -- The file at the location is the one that the file names: no two shadows share either.
      simp [Shade.retext_text, h.loc_eq_iff hr hs]
    rwa [hfiles] at hwrite
  locate_eq := by
    intro r hr
    obtain ⟨q, hq, rfl⟩ := List.mem_map.mp hr
    simpa using h.locate_eq q hq

/-- A file that is created and entered in the table is one more shadow. -/
lemma create (h : Kept dir base shades bench) (s : Shade) (hnew : ∀ r ∈ shades, r.file ≠ s.file)
    (hloc : bench.tree.locate (dir.under (.ofText s.path)) = .ok s.loc)
    (hnone : bench.tree.entry? s.loc = none) :
    Kept dir base (shades ++ [s])
      { bench with
        tree := ⟨bench.tree.entries.insert s.loc (.file (.text s.text))⟩
        shadows := bench.shadows.insert s.file s.path } where
  entries_eq := by
    have hkey : s.file ∉ bench.shadows.keys :=
      (Table.get?_eq_none_iff _ _).mp (h.get?_eq_none_iff.mpr hnew)
    rw [Table.entries_insert_of_not_mem hkey, h.entries_eq, List.map_append]
    rfl
  adds := by
    rw [List.map_append]
    exact h.adds.create hnone s.text
  locate_eq := by
    intro r hr
    rcases List.mem_append.mp hr with hr | hr
    · exact h.locate_eq r hr
    · rw [List.mem_singleton.mp hr]
      exact h.adds.sameDirectories.symm.locate hloc

/-- A file that was there before may be rewritten, below the shadows as it were. -/
lemma rewriteBase (h : Kept dir base shades bench) {loc : Location} {old : Content}
    (hentry : base.entry? loc = some (.file old)) (content : Content) :
    Kept dir ⟨base.entries.insert loc (.file content)⟩ shades
      { bench with tree := ⟨bench.tree.entries.insert loc (.file content)⟩ } where
  entries_eq := h.entries_eq
  adds := h.adds.rewrite hentry content
  locate_eq := by
    have hrewrites := (FileTree.Rewrites.refl (fun _ => True) base).rewrite trivial hentry content
    exact fun s hs => hrewrites.sameDirectories.locate (h.locate_eq s hs)

end Kept

/-- The table and the tree agree, whatever shadows there are. -/
def InUse (dir : Path) (base : FileTree) (bench : Workbench) : Prop :=
  ∃ shades, Kept dir base shades bench

/-! ## Staging -/

/-- **The shadows hold the present texts.**  A file that has a shadow has the text of the shadow, and
every other file the text that it had before. -/
structure Shows (before current : Table Text Text) (shades : List Shade) : Prop where
  get?_file : ∀ s ∈ shades, current.get? s.file = some s.text
  get?_eq : ∀ file, (∀ s ∈ shades, s.file ≠ file) → current.get? file = before.get? file

namespace Shows

variable {before current : Table Text Text} {shades : List Shade}

lemma refl (before : Table Text Text) : Shows before before [] := ⟨by simp, fun _ _ => rfl⟩

lemma retext (h : Shows before current shades) {s : Shade} (hs : s ∈ shades) (text : Text) :
    Shows before (current.insert s.file text) (shades.map (Shade.retext s.file text)) where
  get?_file := by
    intro r hr
    obtain ⟨q, hq, rfl⟩ := List.mem_map.mp hr
    rw [Table.get?_insert, Shade.retext_file, Shade.retext_text]
    by_cases hfile : q.file = s.file
    · rw [if_pos hfile, if_pos hfile]
    · rw [if_neg hfile, if_neg hfile, h.get?_file q hq]
  get?_eq := by
    intro file hfile
    have hnone : ∀ q ∈ shades, q.file ≠ file := by
      intro q hq
      simpa using hfile _ (List.mem_map.mpr ⟨q, hq, rfl⟩)
    rw [Table.get?_insert, if_neg (hnone s hs).symm, h.get?_eq file hnone]

lemma create (h : Shows before current shades) (s : Shade) (hnew : ∀ r ∈ shades, r.file ≠ s.file) :
    Shows before (current.insert s.file s.text) (shades ++ [s]) where
  get?_file := by
    intro r hr
    rw [Table.get?_insert]
    rcases List.mem_append.mp hr with hr | hr
    · rw [if_neg (hnew r hr), h.get?_file r hr]
    · rw [List.mem_singleton.mp hr, if_pos rfl]
  get?_eq := by
    intro file hfile
    have hs : s.file ≠ file := hfile s (List.mem_append_right _ (List.mem_singleton.mpr rfl))
    rw [Table.get?_insert, if_neg hs.symm]
    exact h.get?_eq file fun r hr => hfile r (List.mem_append_left _ hr)

end Shows

/-- The shadows in use hold the present texts. -/
def Staged (dir : Path) (base : FileTree) (before current : Table Text Text) (bench : Workbench) :
    Prop :=
  ∃ shades, Kept dir base shades bench ∧ Shows before current shades

namespace Staged

variable {dir : Path} {base : FileTree} {before current : Table Text Text}
  {bench after : Workbench}

lemma inUse (h : Staged dir base before current bench) : InUse dir base bench := by
  obtain ⟨shades, hkept, -⟩ := h
  exact ⟨shades, hkept⟩

lemma congr (h : Staged dir base before current bench) (htree : after.tree = bench.tree)
    (hshadows : after.shadows = bench.shadows) : Staged dir base before current after := by
  obtain ⟨shades, hkept, hshows⟩ := h
  exact ⟨shades, hkept.congr htree hshadows, hshows⟩

/-- Before anything is staged. -/
lemma start (dir : Path) (before : Table Text Text) (bench : Workbench)
    (hshadows : bench.shadows = .empty) :
    Staged dir bench.tree before before bench := by
  refine ⟨[], ⟨?_, FileTree.Adds.refl _, by simp⟩, Shows.refl before⟩
  rw [hshadows]
  rfl

end Staged

section

variable (dir : Path) (base : FileTree) (before current : Table Text Text)

lemma onlyPrints_unusedFrom (file : Path) : ∀ attempt more : Nat,
    OnlyPrints (unusedFrom dir file attempt more)
  | _, 0 => Keeps.throw _
  | attempt, more + 1 => by
      unfold unusedFrom
      split
      · exact Keeps.throw _
      · refine Keeps.bind (Keeps.bind Keeps.get fun _ => Keeps.ofFile _) fun found => ?_
        cases found with
        | true => exact onlyPrints_unusedFrom file (attempt + 1) more
        | false => exact Keeps.pure _

lemma onlyPrints_unused (file : Text) : OnlyPrints (unused dir file) :=
  Keeps.bind Keeps.get fun _ => onlyPrints_unusedFrom dir _ _ _

/-- A shadow that is there gets the new text. -/
lemma rewrite_triple (file path text : Text) :
    Triple (fun bench => bench.shadows.get? file = some path ∧ Staged dir base before current bench)
      (Run.writeText (dir.under (.ofText path)) text)
      (fun _ => Staged dir base before (current.insert file text)) (InUse dir base) := by
  rintro bench ⟨hget, shades, hkept, hshows⟩
  obtain ⟨s, hs, rfl, rfl⟩ := hkept.mem_of_get? hget
  rw [Run.on_writeText, FileTree.write_of_file (hkept.locate_tree hs) (hkept.entry?_loc hs)]
  exact ⟨_, hkept.retext hs text, hshows.retext hs text⟩

/-- A shadow that is not there yet is created and recorded.  Between the two nothing can fail. -/
lemma create_triple (file path text : Text) :
    Triple (fun bench => bench.shadows.get? file = none ∧ Staged dir base before current bench)
      (do Run.createText (dir.under (.ofText path)) text; record file path)
      (fun _ => Staged dir base before (current.insert file text)) (InUse dir base) := by
  rintro bench ⟨hget, shades, hkept, hshows⟩
  rw [Run.on_bind, Run.on_createText]
  cases hcreate : bench.tree.create (dir.under (.ofText path)) (.text text) with
  | error e => exact ⟨shades, hkept⟩
  | ok tree =>
      obtain ⟨loc, hloc, hnone, rfl⟩ := FileTree.create_eq_ok hcreate
      have hnew := hkept.get?_eq_none_iff.mp hget
      let s : Shade := ⟨file, path, loc, text⟩
      exact ⟨shades ++ [s], hkept.create s hnew hloc hnone, hshows.create s hnew⟩

/-- **One text.** -/
lemma stageFile_triple (file text : Text) :
    Triple (Staged dir base before current) (stageFile dir file text)
      (fun _ => Staged dir base before (current.insert file text)) (InUse dir base) := by
  refine Triple.bind Triple.get fun seen => ?_
  cases hget : seen.shadows.get? file with
  | some path =>
      refine (rewrite_triple dir base before current file path text).mono_pre ?_
      rintro bench ⟨rfl, hstaged⟩
      exact ⟨hget, hstaged⟩
  | none =>
      let fresh : Workbench → Prop := fun bench =>
        bench.shadows.get? file = none ∧ Staged dir base before current bench
      have hunused : Triple fresh (unused dir file) (fun _ => fresh) fresh :=
        (onlyPrints_unused dir file).triple fun _ _ h => ⟨h.1, h.2.congr rfl rfl⟩
      refine Triple.bind ((hunused.mono_failed fun _ h => h.2.inUse).mono_pre ?_) fun path =>
        create_triple dir base before current file path text
      rintro bench ⟨rfl, hstaged⟩
      exact ⟨hget, hstaged⟩

/-- **Staging is entering.**  After staging, the shadows hold the present texts with the new ones
among them; if it is interrupted, the table and the tree still agree. -/
lemma stage_triple (files : List (Text × Text)) :
    Triple (Staged dir base before current) (stage dir files)
      (fun _ => Staged dir base before (current.insertAll files)) (InUse dir base) :=
  Triple.forM files current fun (file, text) _ current =>
    stageFile_triple dir base before current file text

end

/-! ## Cleaning up -/

/-- Staging does not start the compiler. -/
lemma keeps_invocations_stage (dir : Path) (files : List (Text × Text)) :
    Keeps (·.invocations) (stage dir files) := by
  refine Keeps.forM (fun (file, text) => ?_) files
  refine Keeps.bind Keeps.get fun seen => ?_
  cases seen.shadows.get? file with
  | some path => exact Keeps.writeText (fun _ _ => rfl) _ _
  | none =>
      refine Keeps.bind ((onlyPrints_unused dir file).keeps fun _ _ => rfl) fun path => ?_
      exact Keeps.bind (Keeps.createText (fun _ _ => rfl) _ _) fun _ => Keeps.modify fun _ => rfl

/-- Nor does cleaning up. -/
lemma keeps_invocations_cleanup (dir : Path) : Keeps (·.invocations) (cleanup dir) := by
  refine Keeps.bind Keeps.get fun seen => ?_
  refine Keeps.bind (Keeps.forM (fun _ => Keeps.remove (fun _ _ => rfl) _) _) fun _ => ?_
  exact Keeps.modify fun _ => rfl

/-- The files of some shadows are removed, first to last, and the others stay. -/
lemma remove_first_on (dir : Path) (base : FileTree) (rest : List Shade) :
    ∀ (gone : List Shade) (bench : Workbench),
      base.Adds ((gone ++ rest).map fun s => (s.loc, s.text)) bench.tree →
        (∀ s ∈ gone, base.locate (dir.under (.ofText s.path)) = .ok s.loc) →
          ∃ tree, base.Adds (rest.map fun s => (s.loc, s.text)) tree ∧
            ((gone.map (·.path)).forM fun path => Run.remove (dir.under (.ofText path))).on bench
              = (.ok (), { bench with tree })
  | [], bench, hadds, _ => ⟨bench.tree, hadds, rfl⟩
  | s :: gone, bench, hadds, hlocate => by
      have hloc := hadds.sameDirectories.locate (hlocate s List.mem_cons_self)
      have hentry : bench.tree.entry? s.loc = some (.file (.text s.text)) :=
        hadds.entry?_file List.mem_cons_self
      have hremove : (Run.remove (dir.under (.ofText s.path))).on bench
          = (.ok (), { bench with tree := ⟨bench.tree.entries.erase s.loc⟩ }) := by
        rw [Run.on_remove, FileTree.remove_of_file hloc hentry]
      rw [List.map_cons, Run.forM_cons, Run.on_bind_ok hremove]
      exact remove_first_on dir base rest gone _ hadds.remove
        fun r hr => hlocate r (List.mem_cons_of_mem s hr)

/-- The shadows that are in use, first to last, are the values of the table. -/
lemma Kept.values_eq {dir : Path} {base : FileTree} {shades : List Shade} {bench : Workbench}
    (h : Kept dir base shades bench) : bench.shadows.values = shades.map (·.path) := by
  rw [Table.values, h.entries_eq, List.map_map]
  rfl

/-- **Nothing is left behind.**  All shadows can be removed, and the tree is then the one from
before. -/
lemma cleanup_on {dir : Path} {base : FileTree} {bench : Workbench} (h : InUse dir base bench) :
    (cleanup dir).on bench = (.ok (), { bench with tree := base, shadows := .empty }) := by
  obtain ⟨shades, hkept⟩ := h
  have hadds : base.Adds ((shades ++ []).map fun s : Shade => (s.loc, s.text)) bench.tree := by
    rw [List.append_nil]
    exact hkept.adds
  obtain ⟨tree, htree, hremove⟩ := remove_first_on dir base [] shades bench hadds hkept.locate_eq
  rw [htree.eq_base] at hremove
  rw [cleanup, Run.on_bind_ok (Run.on_get bench), hkept.values_eq, Run.on_bind_ok hremove]
  rfl

lemma cleanup_triple (dir : Path) (base : FileTree) {failed : Workbench → Prop} :
    Triple (InUse dir base) (cleanup dir) (fun _ after => after.tree = base) failed := by
  intro bench hbench
  rw [cleanup_on hbench]

end Amend.Shadow
