import Amend.FileTree
import Mathlib.Data.List.Nodup

/-!
# Trees that differ in files only

A path is followed through directories, so two trees with the same directories send every path that
leads somewhere to the same place (`SameDirectories.locate`).  A run of the tool creates, overwrites
and removes files only; all its trees are of this kind.

* `FileTree.Adds`: the second tree is the first with further files behind all its entries.  Each
  operation on one of the further files is an operation on their list: `create` adds to the end,
  `write` changes a text in place, `remove` takes the first one away.  With an empty list the two
  trees are equal, entries and order alike (`Adds.eq_base`).
* `FileTree.Rewrites`: the second tree has the entries of the first at the same places, and may hold
  other content only in the files at some of the given locations.
-/

namespace Amend

/-! ## Entries of a table -/

namespace Table

variable {κ α : Type} [DecidableEq κ]

lemma get?_of_mem {t : Table κ α} {k : κ} {v : α} (h : (k, v) ∈ t.entries) :
    t.get? k = some v := by
  have hsome : (t.get? k).isSome :=
    (isSome_get?_iff t k).mpr (List.mem_map.mpr ⟨(k, v), h, rfl⟩)
  obtain ⟨e, he⟩ := Option.isSome_iff_exists.mp (Option.isSome_map ▸ hsome)
  have hmem := List.mem_of_find?_eq_some he
  have hkey : e.1 = k := by simpa using List.find?_some he
  -- No key stands twice, so the entry that is found is the given one.
  have heq : e = (k, v) := List.inj_on_of_nodup_map t.nodup hmem h hkey
  rw [get?, he, heq]
  rfl

lemma mem_of_get? {t : Table κ α} {k : κ} {v : α} (h : t.get? k = some v) :
    (k, v) ∈ t.entries := by
  rw [get?, Option.map_eq_some_iff] at h
  obtain ⟨e, he, rfl⟩ := h
  have hkey : e.1 = k := by simpa using List.find?_some he
  rw [← hkey]
  exact List.mem_of_find?_eq_some he

lemma get?_eq_some_iff {t : Table κ α} {k : κ} {v : α} :
    t.get? k = some v ↔ (k, v) ∈ t.entries := ⟨mem_of_get?, get?_of_mem⟩

lemma entries_insert_of_mem {t : Table κ α} {k : κ} (h : k ∈ t.keys) (v : α) :
    (t.insert k v).entries = overwrite t.entries k v := by
  rw [insert, dif_pos (show k ∈ t.entries.map Prod.fst from h)]

lemma entries_insert_of_not_mem {t : Table κ α} {k : κ} (h : k ∉ t.keys) (v : α) :
    (t.insert k v).entries = t.entries ++ [(k, v)] := by
  rw [insert, dif_neg (show k ∉ t.entries.map Prod.fst from h)]

lemma entries_erase (t : Table κ α) (k : κ) :
    (t.erase k).entries = t.entries.filter fun e => e.1 ≠ k := rfl

lemma overwrite_of_not_mem {entries : List (κ × α)} {k : κ} (h : k ∉ entries.map Prod.fst) (v : α) :
    overwrite entries k v = entries := by
  rw [overwrite]
  refine (List.map_congr_left fun e he => ?_).trans (List.map_id _)
  rw [if_neg fun hk => h (List.mem_map.mpr ⟨e, he, hk⟩)]
  rfl

lemma overwrite_append (a b : List (κ × α)) (k : κ) (v : α) :
    overwrite (a ++ b) k v = overwrite a k v ++ overwrite b k v := List.map_append

end Table

namespace FileTree

variable {base tree : FileTree}

lemma entry?_of_ne_nil {loc : Location} (h : loc ≠ []) :
    tree.entry? loc = tree.entries.get? loc := by
  cases loc with
  | nil => exact absurd rfl h
  | cons c cs => rfl

lemma ne_nil_of_entry?_eq_none {loc : Location} (h : tree.entry? loc = none) : loc ≠ [] := by
  rintro rfl
  cases h

lemma ne_nil_of_entry?_eq_file {loc : Location} {content : Content}
    (h : tree.entry? loc = some (.file content)) : loc ≠ [] := by
  rintro rfl
  cases h

/-! ## Following a path -/

/-- Do two trees have directories at the same locations? -/
def SameDirectories (t u : FileTree) : Prop :=
  ∀ loc, t.entry? loc = some .directory ↔ u.entry? loc = some .directory

namespace SameDirectories

variable {t u v : FileTree}

lemma symm (h : SameDirectories t u) : SameDirectories u t := fun loc => (h loc).symm

lemma walk (h : SameDirectories t u) : ∀ (parts : List Text) (here loc : Location),
    t.walk here parts = .ok loc → u.walk here parts = .ok loc
  | [], _, _, hwalk => hwalk
  | part :: parts, here, loc, hwalk => by
      rw [FileTree.walk] at hwalk ⊢
      by_cases hup : part = ['.', '.']
      · rw [if_pos hup] at hwalk ⊢
        exact walk h parts _ _ hwalk
      · rw [if_neg hup] at hwalk ⊢
        by_cases hlong : maxNameOctets < octetCount part
        · rw [if_pos hlong] at hwalk
          cases hwalk
        · rw [if_neg hlong] at hwalk ⊢
          by_cases hlast : parts.isEmpty = true
          · simpa only [hlast, if_true] using hwalk
          · -- Only a directory lets the path go on.
            simp only [hlast, Bool.false_eq_true, if_false] at hwalk ⊢
            cases hentry : t.entry? (here ++ [part]) with
            | none => rw [hentry] at hwalk; cases hwalk
            | some entry =>
                rw [hentry] at hwalk
                cases entry with
                | file content => cases hwalk
                | directory =>
                    rw [(h _).mp hentry]
                    exact walk h parts _ _ hwalk

/-- **A path leads to the same place in both trees.** -/
lemma locate (h : SameDirectories t u) {p : Path} {loc : Location} (hloc : t.locate p = .ok loc) :
    u.locate p = .ok loc := by
  rw [FileTree.locate] at hloc ⊢
  by_cases hnull : p.hasNull = true
  · rw [if_pos hnull] at hloc
    cases hloc
  · rw [if_neg hnull] at hloc ⊢
    by_cases hlong : maxPathOctets < octetCount p.toText
    · rw [if_pos hlong] at hloc
      cases hloc
    · rw [if_neg hlong] at hloc ⊢
      exact h.walk _ _ _ hloc

end SameDirectories

lemma walk_ends_with {tree : FileTree} {part : Text} (hpart : part ≠ ['.', '.']) :
    ∀ (parts : List Text) (here loc : Location),
      tree.walk here (parts ++ [part]) = .ok loc → loc.getLast? = some part
  | [], here, loc, h => by
      rw [List.nil_append, walk, if_neg hpart] at h
      split at h
      · cases h
      · cases h
        exact List.getLast?_concat
  | other :: parts, here, loc, h => by
      rw [List.cons_append, walk] at h
      by_cases hup : other = ['.', '.']
      · rw [if_pos hup] at h
        exact walk_ends_with hpart parts _ loc h
      · rw [if_neg hup] at h
        split at h
        · cases h
        · have hmore : (parts ++ [part]).isEmpty = false := by simp
          simp only [hmore, Bool.false_eq_true, if_false] at h
          split at h
          · cases h
          · cases h
          · exact walk_ends_with hpart parts _ loc h

/-- **A path leads to a place of its own name.** -/
lemma locate_ends_with {tree : FileTree} {part : Text} {p : Path} {parts : List Text}
    {loc : Location} (hpart : part ≠ ['.', '.']) (hparts : p.parts = parts ++ [part])
    (h : tree.locate p = .ok loc) : loc.getLast? = some part := by
  rw [locate, hparts] at h
  split at h
  · cases h
  · split at h
    · cases h
    · exact walk_ends_with hpart parts [] loc h

/-! ## What the operations do -/

lemma read_eq_ok_iff {p : Path} {content : Content} : tree.read p = .ok content ↔
    ∃ loc, tree.locate p = .ok loc ∧ tree.entry? loc = some (.file content) := by
  rw [read]
  cases hloc : tree.locate p with
  | error cause => simp [blame, bind, Except.bind]
  | ok loc =>
      cases hentry : tree.entry? loc with
      | none => simp [blame, bind, Except.bind, hentry]
      | some entry => cases entry <;> simp [blame, bind, Except.bind, hentry]

/-- A file that is there can be written. -/
lemma write_of_file {p : Path} {loc : Location} {old : Content} (hloc : tree.locate p = .ok loc)
    (hentry : tree.entry? loc = some (.file old)) (content : Content) :
    tree.write p content = .ok ⟨tree.entries.insert loc (.file content)⟩ := by
  rw [write, hloc]
  simp [blame, bind, Except.bind, hentry]

/-- A file is created only where nothing is. -/
lemma create_eq_ok {p : Path} {content : Content} {new : FileTree}
    (h : tree.create p content = .ok new) :
    ∃ loc, tree.locate p = .ok loc ∧ tree.entry? loc = none ∧
      new = ⟨tree.entries.insert loc (.file content)⟩ := by
  rw [create] at h
  cases hloc : tree.locate p with
  | error cause =>
      rw [hloc] at h
      cases h
  | ok loc =>
      rw [hloc] at h
      refine ⟨loc, rfl, ?_⟩
      cases hentry : tree.entry? loc with
      | some entry => simp [blame, bind, Except.bind, hentry] at h
      | none =>
          simp only [blame, bind, Except.bind, hentry, Except.ok.injEq] at h
          exact ⟨rfl, h.symm⟩

lemma remove_of_file {p : Path} {loc : Location} {old : Content} (hloc : tree.locate p = .ok loc)
    (hentry : tree.entry? loc = some (.file old)) :
    tree.remove p = .ok ⟨tree.entries.erase loc⟩ := by
  rw [remove, hloc]
  simp [hentry]

/-! ## Further files -/

/-- The entries of further files. -/
def fileEntries (files : List (Location × Text)) : List (Location × Entry) :=
  files.map fun f => (f.1, .file (.text f.2))

lemma map_fst_fileEntries (files : List (Location × Text)) :
    (fileEntries files).map Prod.fst = files.map Prod.fst := by
  simp [fileEntries, Function.comp_def]

/-- **One tree is another with further files.**  They stand behind all entries of the other. -/
structure Adds (base : FileTree) (files : List (Location × Text)) (tree : FileTree) : Prop where
  entries_eq : tree.entries.entries = base.entries.entries ++ fileEntries files
  below_root : ∀ f ∈ files, f.1 ≠ []

namespace Adds

variable {files : List (Location × Text)}

lemma refl (base : FileTree) : Adds base [] base where
  entries_eq := by simp [fileEntries]
  below_root := by simp

/-- Without further files, the trees are the same. -/
lemma eq_base (h : Adds base [] tree) : tree = base := by
  have hentries : tree.entries = base.entries :=
    Table.eq_of_entries (by rw [h.entries_eq, fileEntries, List.map_nil, List.append_nil])
  cases tree
  cases base
  simp only at hentries
  rw [hentries]

/-- The locations of the further files are new, and no two of them are the same. -/
lemma nodup (h : Adds base files tree) :
    (base.entries.keys ++ files.map Prod.fst).Nodup := by
  have hnodup := tree.entries.nodup
  rwa [h.entries_eq, List.map_append, map_fst_fileEntries] at hnodup

lemma keys_eq (h : Adds base files tree) :
    tree.entries.keys = base.entries.keys ++ files.map Prod.fst := by
  rw [Table.keys, h.entries_eq, List.map_append, map_fst_fileEntries]
  rfl

lemma not_mem_base (h : Adds base files tree) {loc : Location} {t : Text}
    (hmem : (loc, t) ∈ files) : loc ∉ base.entries.keys := by
  intro hbase
  have hdisjoint := (List.nodup_append.mp h.nodup).2.2
  exact hdisjoint loc hbase loc (List.mem_map.mpr ⟨(loc, t), hmem, rfl⟩) rfl

/-- What the smaller tree has, the larger one has as well. -/
lemma entry?_base (h : Adds base files tree) {loc : Location} {entry : Entry}
    (hentry : base.entry? loc = some entry) : tree.entry? loc = some entry := by
  by_cases hnil : loc = []
  · subst hnil
    exact hentry
  · rw [entry?_of_ne_nil hnil, Table.get?_eq_some_iff] at hentry ⊢
    rw [h.entries_eq]
    exact List.mem_append_left _ hentry

lemma entry?_file (h : Adds base files tree) {loc : Location} {t : Text}
    (hmem : (loc, t) ∈ files) : tree.entry? loc = some (.file (.text t)) := by
  rw [entry?_of_ne_nil (h.below_root _ hmem), Table.get?_eq_some_iff, h.entries_eq]
  exact List.mem_append_right _ (List.mem_map.mpr ⟨(loc, t), hmem, rfl⟩)

lemma sameDirectories (h : Adds base files tree) : SameDirectories base tree := by
  intro loc
  refine ⟨h.entry?_base, fun hdirectory => ?_⟩
  by_cases hnil : loc = []
  · subst hnil
    rfl
  · rw [entry?_of_ne_nil hnil, Table.get?_eq_some_iff] at hdirectory ⊢
    rw [h.entries_eq] at hdirectory
    rcases List.mem_append.mp hdirectory with hbase | hfile
    · exact hbase
    · obtain ⟨f, -, hf⟩ := List.mem_map.mp hfile
      cases hf

/-- A file that is created goes to the end of the list. -/
lemma create (h : Adds base files tree) {loc : Location} (hnone : tree.entry? loc = none)
    (t : Text) :
    Adds base (files ++ [(loc, t)]) ⟨tree.entries.insert loc (.file (.text t))⟩ where
  entries_eq := by
    have hnil := ne_nil_of_entry?_eq_none hnone
    rw [entry?_of_ne_nil hnil, Table.get?_eq_none_iff] at hnone
    simp only [Table.entries_insert_of_not_mem hnone, h.entries_eq, fileEntries, List.map_append,
      List.map_cons, List.map_nil, List.append_assoc]
  below_root := by
    intro f hf
    rcases List.mem_append.mp hf with hf | hf
    · exact h.below_root f hf
    · rw [List.mem_singleton.mp hf]
      exact ne_nil_of_entry?_eq_none hnone

/-- A file of the list that is written has its new text at the same place. -/
lemma write (h : Adds base files tree) {loc : Location} {old : Text} (hmem : (loc, old) ∈ files)
    (t : Text) :
    Adds base (Table.overwrite files loc t) ⟨tree.entries.insert loc (.file (.text t))⟩ where
  entries_eq := by
    have hkey : loc ∈ tree.entries.keys := by
      rw [h.keys_eq]
      exact List.mem_append_right _ (List.mem_map.mpr ⟨(loc, old), hmem, rfl⟩)
    have hbase : loc ∉ base.entries.entries.map Prod.fst := h.not_mem_base hmem
    have hfiles : Table.overwrite (fileEntries files) loc (.file (.text t))
        = fileEntries (Table.overwrite files loc t) := by
      simp only [Table.overwrite, fileEntries, List.map_map]
      refine List.map_congr_left fun f _ => ?_
      by_cases hf : f.1 = loc <;> simp [hf]
    rw [Table.entries_insert_of_mem hkey, h.entries_eq, Table.overwrite_append,
      Table.overwrite_of_not_mem hbase, hfiles]
  below_root := by
    intro f hf
    obtain ⟨g, hg, rfl⟩ := List.mem_map.mp hf
    exact h.below_root g hg

/-- The first file of the list that is removed is gone. -/
lemma remove {f : Location × Text} (h : Adds base (f :: files) tree) :
    Adds base files ⟨tree.entries.erase f.1⟩ where
  entries_eq := by
    have hbase : ∀ e ∈ base.entries.entries, e.1 ≠ f.1 := by
      intro e he heq
      have hfirst : (f.1, f.2) ∈ f :: files := List.mem_cons_self
      exact h.not_mem_base hfirst (heq ▸ List.mem_map.mpr ⟨e, he, rfl⟩)
    have hrest : ∀ e ∈ fileEntries files, e.1 ≠ f.1 := by
      intro e he heq
      obtain ⟨g, hg, rfl⟩ := List.mem_map.mp he
      have hnodup := (List.nodup_append.mp h.nodup).2.1
      rw [List.map_cons, List.nodup_cons] at hnodup
      exact hnodup.1 (heq ▸ List.mem_map.mpr ⟨g, hg, rfl⟩)
    have hcons : fileEntries (f :: files) = (f.1, .file (.text f.2)) :: fileEntries files := rfl
    rw [Table.entries_erase, h.entries_eq, hcons, List.filter_append,
      List.filter_cons_of_neg (by simp), List.filter_eq_self.mpr (by simpa using hbase),
      List.filter_eq_self.mpr (by simpa using hrest)]
  below_root := fun g hg => h.below_root g (List.mem_cons_of_mem f hg)

/-- A file of the smaller tree may be written in both. -/
lemma rewrite (h : Adds base files tree) {loc : Location} {old : Content}
    (hentry : base.entry? loc = some (.file old)) (content : Content) :
    Adds ⟨base.entries.insert loc (.file content)⟩ files
      ⟨tree.entries.insert loc (.file content)⟩ where
  entries_eq := by
    rw [entry?_of_ne_nil (ne_nil_of_entry?_eq_file hentry)] at hentry
    have hkey : loc ∈ base.entries.keys :=
      (Table.isSome_get?_iff _ _).mp (Option.isSome_iff_exists.mpr ⟨_, hentry⟩)
    have hfiles : loc ∉ (fileEntries files).map Prod.fst := by
      rw [map_fst_fileEntries]
      intro hmem
      obtain ⟨f, hf, rfl⟩ := List.mem_map.mp hmem
      exact h.not_mem_base hf hkey
    have hkeyTree : loc ∈ tree.entries.keys := by
      rw [h.keys_eq]
      exact List.mem_append_left _ hkey
    rw [Table.entries_insert_of_mem hkeyTree, Table.entries_insert_of_mem hkey, h.entries_eq,
      Table.overwrite_append, Table.overwrite_of_not_mem hfiles]
  below_root := h.below_root

end Adds

/-! ## Rewritten files -/

/-- **One tree is another with files rewritten.**  The locations are the same, in the same order;
only a file that is among the named ones may hold something else. -/
structure Rewrites (named : Location → Prop) (before after : FileTree) : Prop where
  keys_eq : after.entries.keys = before.entries.keys
  kept_or_named : ∀ loc, after.entry? loc = before.entry? loc ∨
    named loc ∧ ∃ old new, before.entry? loc = some (.file old) ∧
      after.entry? loc = some (.file new)

namespace Rewrites

variable {named : Location → Prop} {before after : FileTree}

lemma refl (named : Location → Prop) (tree : FileTree) : Rewrites named tree tree where
  keys_eq := rfl
  kept_or_named := fun _ => .inl rfl

lemma mono {named' : Location → Prop} (h : Rewrites named before after)
    (hnamed : ∀ loc, named loc → named' loc) : Rewrites named' before after where
  keys_eq := h.keys_eq
  kept_or_named := fun loc => (h.kept_or_named loc).imp_right (And.imp_left (hnamed loc))

/-- What was a file is a file. -/
lemma entry?_file (h : Rewrites named before after) {loc : Location} {old : Content}
    (hentry : before.entry? loc = some (.file old)) :
    ∃ new, after.entry? loc = some (.file new) := by
  rcases h.kept_or_named loc with hkept | ⟨-, -, new, -, hnew⟩
  · exact ⟨old, hkept.trans hentry⟩
  · exact ⟨new, hnew⟩

lemma sameDirectories (h : Rewrites named before after) : SameDirectories before after := by
  intro loc
  rcases h.kept_or_named loc with hkept | ⟨-, old, new, hold, hnew⟩
  · rw [hkept]
  · simp [hold, hnew]

lemma walk_eq (h : Rewrites named before after) : ∀ (parts : List Text) (here : Location),
    after.walk here parts = before.walk here parts
  | [], _ => rfl
  | part :: parts, here => by
      have ih := walk_eq h parts
      rw [FileTree.walk, FileTree.walk, ih]
      rcases h.kept_or_named (here ++ [part]) with hkept | ⟨-, old, new, hold, hnew⟩
      · simp only [hkept, ih]
      · simp only [hold, hnew]

/-- **A path leads to the same place**, or fails in the same way. -/
lemma locate_eq (h : Rewrites named before after) (p : Path) :
    after.locate p = before.locate p := by
  rw [FileTree.locate, FileTree.locate, h.walk_eq]

/-- A path names a file if it named one before. -/
lemma isFile_eq (h : Rewrites named before after) (p : Path) :
    after.isFile p = before.isFile p := by
  rw [isFile, isFile, lookup, lookup, h.locate_eq]
  cases before.locate p with
  | error cause => cases cause <;> rfl
  | ok loc =>
      rcases h.kept_or_named loc with hkept | ⟨-, old, new, hold, hnew⟩
      · simp only [hkept]
      · simp only [hold, hnew, Except.map]

/-- What does not lead to a named file holds what it held. -/
lemma read_eq (h : Rewrites named before after) {p : Path}
    (hp : ∀ loc, before.locate p = .ok loc → ¬ named loc) : after.read p = before.read p := by
  rw [read, read, h.locate_eq]
  cases hloc : before.locate p with
  | error cause => rfl
  | ok loc =>
      have hkept := (h.kept_or_named loc).resolve_right fun hnamed => hp loc hloc hnamed.1
      simp only [bind, Except.bind, hkept]

/-- One more named file may be rewritten. -/
lemma rewrite (h : Rewrites named before after) {loc : Location} {old : Content}
    (hnamed : named loc) (hentry : before.entry? loc = some (.file old)) (content : Content) :
    Rewrites named before ⟨after.entries.insert loc (.file content)⟩ where
  keys_eq := by
    obtain ⟨new, hnew⟩ := h.entry?_file hentry
    rw [entry?_of_ne_nil (ne_nil_of_entry?_eq_file hnew)] at hnew
    have hkey : loc ∈ after.entries.keys :=
      (Table.isSome_get?_iff _ _).mp (Option.isSome_iff_exists.mpr ⟨_, hnew⟩)
    rw [Table.keys_insert, if_pos hkey, h.keys_eq]
  kept_or_named := by
    intro other
    have hnil := ne_nil_of_entry?_eq_file hentry
    by_cases hother : other = loc
    · subst hother
      refine .inr ⟨hnamed, old, content, hentry, ?_⟩
      rw [entry?_of_ne_nil hnil, Table.get?_insert, if_pos rfl]
    · have hkept : FileTree.entry? ⟨after.entries.insert loc (.file content)⟩ other
          = after.entry? other := by
        cases other with
        | nil => rfl
        | cons c cs => exact (Table.get?_insert _ _ _ _).trans (if_neg hother)
      rw [hkept]
      exact h.kept_or_named other

end Rewrites

end FileTree

end Amend
