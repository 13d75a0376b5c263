import Amend.Proofs.Occurrences
import Amend.Proofs.Rounds
import Amend.Proofs.ShadowUse

/-!
# The paths of shadows and of their files

The compiler speaks of the shadow that it has checked.  `Shadow.restore` puts the paths of the files
back by plain replacements, one shadow after the other, though the path of a shadow may occur in
that of another one: `.b.mofix.mo` occurs in `lib/.b.mofix.mo` and in `.a.b.mofix.mo`.

**Parts.**  `Shadow.Parts` are what the path of a file and that of its shadow are made of.  The mark
in the middle of a shadow's path stands there once (`Parts.Proper.mark_unique`), so wherever the
path of a shadow occurs in that of another one, the marks are the same.  From there the two paths
are compared to the left and to the right: replacing the inner path by that of its file makes the
outer path that of its file too (`Parts.Proper.file_eq`).  The one exception is a file whose path,
after a dot, stands inside the name of the other file (`Shadow.HiddenIn`).

**Replacements.**  `restoreAll_path` follows a diagnostic through all of them.  A path has parts if
it is plain (`Shadow.Plain`); that matters only where the path of a shadow occurs in that of a later
one (`Shadow.Compatible`).

**Names.**  `Shadow.Named` says that every path in the table of shadows is one that `nameFor` gives,
and is an invariant of all that is done with shadows (`perform_named`).  With it, `restore_pathFor`
speaks about shadows that were staged in any steps and any order.
-/

namespace Amend

open Run (Triple Keeps)

/-! ## The directory and the name of a path -/

namespace Path

/-- A directory as it stands in front of a name: empty, or with a slash at its end. -/
def IsDirectory (dir : Text) : Prop := dir = [] ∨ ∃ front, dir = front ++ ['/']

/-- A text at the end of a directory is empty or holds a slash. -/
lemma IsDirectory.of_append {dir a b : Text} (h : IsDirectory dir) (hdir : dir = a ++ b) :
    b = [] ∨ '/' ∈ b := by
  rcases List.eq_nil_or_concat' b with rfl | ⟨front', c, rfl⟩
  · exact Or.inl rfl
  · rcases h with rfl | ⟨front, rfl⟩
    · simp at hdir
    · rw [← List.append_assoc] at hdir
      obtain ⟨-, hc⟩ := List.append_inj' hdir rfl
      rw [← hc]
      exact Or.inr (List.mem_append_right _ List.mem_cons_self)

lemma root_ofText (t : Text) : IsDirectory (ofText t).root := by
  rw [ofText]
  split
  · exact Or.inl rfl
  · exact Or.inr ⟨['/'], rfl⟩
  · exact Or.inr ⟨[], rfl⟩

/-- The directory that a path is in. -/
def directory (p : Path) : Text :=
  p.root ++ if p.parts.dropLast = [] then [] else Text.joinWith ['/'] p.parts.dropLast ++ ['/']

lemma isDirectory_directory (t : Text) : IsDirectory (ofText t).directory := by
  rw [directory]
  split
  · rw [List.append_nil]
    exact root_ofText t
  · exact Or.inr ⟨_, (List.append_assoc _ _ _).symm⟩

/-- The directory of a path that has been read holds slashes and what stands in the text. -/
lemma of_mem_directory {t : Text} {c : Char} (h : c ∈ (ofText t).directory) : c = '/' ∨ c ∈ t := by
  rw [directory, List.mem_append] at h
  rcases h with h | h
  · left
    rw [ofText] at h
    split at h
    · cases h
    · simpa using h
    · simpa using h
  · split at h
    · cases h
    · rcases List.mem_append.mp h with h | h
      · rcases Text.of_mem_joinWith h with h | ⟨part, hpart, hc⟩
        · exact Or.inl (List.mem_singleton.mp h)
        · have hpiece := (List.mem_filter.mp (List.mem_of_mem_dropLast hpart)).1
          exact Or.inr ((Text.of_mem_splitOn t part hpiece).2.subset hc)
      · exact Or.inl (List.mem_singleton.mp h)

/-- **A path is its directory and its name.** -/
lemma toText_withName (p : Path) {name : Text} (h : name ≠ []) :
    (p.withName name).toText = p.directory ++ name := by
  have hjoin : p.root ++ Text.joinWith ['/'] (p.parts.dropLast ++ [name])
      = p.directory ++ name := by
    rw [directory]
    split
    · next hnil => simp [hnil, Text.joinWith]
    · next hne =>
      rw [Text.joinWith_append _ (List.cons_ne_nil name []) hne]
      simp [Text.joinWith]
  have hne : p.directory ++ name ≠ [] := by simp [h]
  rw [toText, withName, hjoin]
  split
  · next hnil => exact absurd hnil hne
  · rfl

lemma withName_name? (p : Path) {name : Text} (h : p.name? = some name) : p.withName name = p := by
  rw [withName, List.dropLast_append_getLast? name h]

lemma name?_ofText {t name : Text} (h : (ofText t).name? = some name) :
    name ≠ [] ∧ '/' ∉ name ∧ name <:+: t := by
  obtain ⟨hpiece, hkept⟩ := List.mem_filter.mp (List.mem_of_getLast? h)
  refine ⟨?_, Text.of_mem_splitOn t name hpiece⟩
  rintro rfl
  cases hkept

lemma splitName_append_snd (name : Text) : (splitName name).1 ++ (splitName name).2 = name := by
  rw [splitName]
  split
  · exact List.take_append_drop _ name
  · exact List.append_nil name

lemma splitName_append (stem : Text) {ext : Text} (hext : '.' ∉ ext) :
    splitName (stem ++ '.' :: ext)
      = if stem ≠ [] ∧ ext ≠ [] then (stem, '.' :: ext) else (stem ++ '.' :: ext, []) := by
  have hall : ∀ c ∈ ext.reverse, decide (c ≠ '.') = true := fun c hc =>
    decide_eq_true fun heq => hext (heq ▸ List.mem_reverse.mp hc)
  have hsuffix : ((stem ++ '.' :: ext).reverse.takeWhile (· ≠ '.')).reverse = ext := by
    rw [List.reverse_append, List.reverse_cons, List.append_assoc,
      List.takeWhile_append_of_pos hall]
    simp
  have hlength : (stem ++ '.' :: ext).length - ext.length - 1 = stem.length := by
    rw [List.length_append, List.length_cons]
    omega
  rw [splitName]
  simp only [hsuffix, hlength, List.take_left, List.drop_left]
  by_cases hstem : stem = [] <;> by_cases hne : ext = [] <;>
    simp [hstem, hne, List.length_pos_iff]

/-- A name with a suffix is cut before its last dot. -/
lemma splitName_of_suffix {name : Text} (h : (splitName name).2 ≠ []) :
    ∃ stem ext, name = stem ++ '.' :: ext ∧ splitName name = (stem, '.' :: ext) := by
  by_cases hdot : '.' ∈ name
  · obtain ⟨back, front, hname, hback⟩ := List.eq_append_cons_of_mem (List.mem_reverse.mpr hdot)
    have hcut : name = front.reverse ++ '.' :: back.reverse := by
      rw [← List.reverse_reverse name, hname]
      simp
    have hext : '.' ∉ back.reverse := fun hmem => hback (List.mem_reverse.mp hmem)
    have hsplit := splitName_append front.reverse hext
    rw [← hcut] at hsplit
    split at hsplit
    · exact ⟨_, _, hcut, hsplit⟩
    · rw [hsplit] at h
      exact absurd rfl h
  · rw [splitName] at h
    simp [hdot] at h

end Path

/-! ## The parts of a shadow's path -/

namespace Shadow

/-- What tells the name of a shadow from other names. -/
def mark : Text := ".mofix"

/-- **The parts of a file's path and of its shadow's path.** -/
structure Parts where
  dir : Text
  stem : Text
  label : Text
  ext : Text

namespace Parts

variable (p q : Parts)

/-- The path of the file. -/
def file : Text := p.dir ++ (p.stem ++ '.' :: p.ext)

/-- What stands before the mark. -/
def lead : Text := p.dir ++ '.' :: p.stem

/-- What stands behind the mark. -/
def tail : Text := p.label ++ '.' :: p.ext

/-- The path of the shadow. -/
def path : Text := p.lead ++ mark ++ p.tail

/-- The path of the shadow is put together as it should be, and holds no mark but its own. -/
structure Proper : Prop where
  dir : Path.IsDirectory p.dir
  stem_slash : '/' ∉ p.stem
  label_digit : ∀ c ∈ p.label, c.isDigit
  lead_mark : ¬ mark <:+: p.lead
  ext_mark : ¬ mark <:+: '.' :: p.ext

variable {p q}

lemma Proper.dot_not_mem_label (h : p.Proper) : '.' ∉ p.label := fun hmem =>
  absurd (h.label_digit _ hmem) (by decide)

/-- **The mark stands in one place only.** -/
lemma Proper.mark_unique (h : p.Proper) {x y : Text} (hxy : x ++ mark ++ y = p.path) :
    x = p.lead ∧ y = p.tail := by
  refine Text.occurrence_unique (fun hoccurs => ?_) (fun hoccurs => ?_) hxy
  · rcases Text.infix_append_cons_first (by decide) hoccurs with hoccurs | hoccurs
    · exact h.lead_mark hoccurs
    · exact absurd hoccurs (by decide)
  · rw [tail, ← List.append_assoc] at hoccurs
    refine h.ext_mark (Text.infix_of_first_not_mem (fun hmem => ?_) hoccurs)
    rcases List.mem_append.mp hmem with hmem | hmem
    · exact absurd hmem (by decide)
    · exact h.dot_not_mem_label hmem

/-- Where the path of a shadow occurs in that of another one, the marks are the same. -/
lemma Proper.lead_tail_eq (hq : q.Proper) {d e : Text} (h : d ++ p.path ++ e = q.path) :
    d ++ p.lead = q.lead ∧ p.tail ++ e = q.tail := by
  refine hq.mark_unique ?_
  rw [← h, path]
  simp

lemma Proper.slash_not_mem (h : p.Proper) : '/' ∉ '.' :: p.stem := fun hmem =>
  h.stem_slash ((List.mem_cons.mp hmem).resolve_left (by decide))

/-- Two paths of shadows that agree up to the ends of their stems: the dots in front of the stems
are one and the same, unless the first stem, after a dot, stands inside the second one. -/
lemma Proper.front_eq (hp : p.Proper) (hq : q.Proper) {d : Text}
    (h : d ++ p.dir ++ '.' :: p.stem = q.dir ++ '.' :: q.stem) :
    d ++ p.dir ++ p.stem = q.dir ++ q.stem ∨
      p.dir = [] ∧ ∃ c u, q.stem = c :: u ++ '.' :: p.stem := by
  rcases hp.dir with hpdir | ⟨front, hpdir⟩
  · rw [hpdir, List.append_nil] at h ⊢
    rcases List.append_eq_append_iff.mp h with ⟨u, hdir, hu⟩ | ⟨u, hd, hu⟩
    · rcases hq.dir.of_append hdir with rfl | hmem
      · rw [hdir, List.append_nil, List.tail_eq_of_cons_eq hu]
        exact Or.inl rfl
      · exact absurd (hu ▸ List.mem_append_left _ hmem) hp.slash_not_mem
    · match u, hd, hu with
      | [], hd, hu =>
          rw [hd, List.append_nil, List.tail_eq_of_cons_eq hu]
          exact Or.inl rfl
      | [c], hd, hu =>
          -- The second stem begins with the dot of the first one, as that of a hidden file does.
          obtain ⟨rfl, hstem⟩ := List.cons_eq_cons.mp hu
          rw [hd, hstem]
          exact Or.inl (by simp)
      | c :: c' :: u, hd, hu =>
          obtain ⟨-, hstem⟩ := List.cons_eq_cons.mp hu
          exact Or.inr ⟨rfl, c', u, hstem⟩
  · have hslash : '/' ∈ q.dir ++ '.' :: q.stem := by
      rw [← h, hpdir]
      simp
    rcases hq.dir with hnil | ⟨front', hqdir⟩
    · rw [hnil] at hslash
      exact absurd hslash hq.slash_not_mem
    · rw [hpdir, hqdir] at h ⊢
      have hcut : d ++ front ++ '/' :: '.' :: p.stem = front' ++ '/' :: '.' :: q.stem := by
        simpa using h
      obtain ⟨hfront, hstem⟩ := Text.cut_last hp.slash_not_mem hq.slash_not_mem hcut
      rw [← hfront, List.tail_eq_of_cons_eq hstem]
      exact Or.inl (by simp)

/-- **A shadow's path in another one's.**  If the path of a shadow occurs in that of another one,
the path of its file occurs in that of the other file, with the same texts around it, unless the
first file, after a dot, stands inside the name of the second one. -/
lemma Proper.file_eq (hp : p.Proper) (hq : q.Proper) {d e : Text} (h : d ++ p.path ++ e = q.path)
    (hname : ¬ ('.' :: p.file) <:+: (q.stem ++ '.' :: q.ext).drop 1) :
    q.file = d ++ p.file ++ e := by
  obtain ⟨hlead, htail⟩ := hq.lead_tail_eq h
  have hext : q.ext = p.ext ++ e := by
    rw [tail, tail, List.append_assoc, List.cons_append] at htail
    exact (Text.cut_first hp.dot_not_mem_label hq.dot_not_mem_label htail).2.symm
  have hfront : d ++ p.dir ++ '.' :: p.stem = q.dir ++ '.' :: q.stem := by
    rw [List.append_assoc]
    exact hlead
  rcases hp.front_eq hq hfront with hfront | ⟨hdir, c, u, hstem⟩
  · rw [file, file, hext, ← List.append_assoc q.dir, ← hfront]
    simp
  · exact absurd ⟨u, e, by simp [hstem, hext, file, hdir]⟩ hname

end Parts

/-! ## Files and their shadows -/

/-- The path is the one that some attempt gives to the shadow of the file. -/
def IsShadowOf (file path : Text) : Prop :=
  ∃ attempt p, pathWith? (labelAt attempt) (.ofText file) = some p ∧ p.toText = path

/-- **A plain path** is written as paths are written, and names a file with a suffix that does not
look like a shadow. -/
structure Plain (file : Text) : Prop where
  spelled : (Path.ofText file).toText = file
  suffixed : ∀ name, (Path.ofText file).name? = some name → (Path.splitName name).2 ≠ []
  no_mark : ¬ mark <:+: file
  no_mark_name : ∀ name, (Path.ofText file).name? = some name → ¬ mark <:+: '.' :: name

/-- **A file inside the name of another one.**  The path of the first file, after a dot, stands in
the name of the second one, though not at its beginning. -/
def HiddenIn (file other : Text) : Prop :=
  ∃ name, (Path.ofText other).name? = some name ∧ ('.' :: file) <:+: name.drop 1

instance (file : Text) : Decidable (Plain file) :=
  decidable_of_iff ((Path.ofText file).toText = file ∧
      (∀ name ∈ (Path.ofText file).name?, (Path.splitName name).2 ≠ []) ∧ ¬ mark <:+: file ∧
        ∀ name ∈ (Path.ofText file).name?, ¬ mark <:+: '.' :: name)
    ⟨fun h => ⟨h.1, h.2.1, h.2.2.1, h.2.2.2⟩, fun h => ⟨h.1, h.2, h.3, h.4⟩⟩

instance (file other : Text) : Decidable (HiddenIn file other) :=
  inferInstanceAs (Decidable (∃ name ∈ (Path.ofText other).name?, ('.' :: file) <:+: name.drop 1))

lemma isDigit_of_mem_labelAt {attempt : Nat} {c : Char} (h : c ∈ labelAt attempt) : c.isDigit := by
  cases attempt with
  | zero => cases h
  | succ n => exact Nat.isDigit_of_mem_toDigits (by decide) (by decide) h

/-- The mark stands between the stem and the suffix. -/
lemma nameFor_of_splitName {label name stem ext : Text}
    (h : Path.splitName name = (stem, '.' :: ext)) :
    nameFor label name = '.' :: stem ++ mark ++ (label ++ '.' :: ext) := by
  rw [nameFor, h, ← List.append_assoc]
  rfl

/-- What the shadow's name holds besides the file's name are a dot, the mark and digits. -/
lemma not_mem_nameFor {name : Text} {c : Char} (hdot : c ≠ '.') (hmark : c ∉ mark)
    (hdigit : ¬ c.isDigit) (hname : c ∉ name) (attempt : Nat) :
    c ∉ nameFor (labelAt attempt) name := by
  have hlabel : c ∉ labelAt attempt := fun hmem => hdigit (isDigit_of_mem_labelAt hmem)
  have hparts : c ∉ (Path.splitName name).1 ++ (Path.splitName name).2 := by
    rwa [Path.splitName_append_snd]
  rw [List.mem_append, not_or] at hparts
  simp only [nameFor, List.mem_append, List.mem_cons, not_or]
  exact ⟨⟨⟨⟨hdot, hparts.1⟩, hmark⟩, hlabel⟩, hparts.2⟩

namespace IsShadowOf

variable {file path : Text}

/-- A shadow stands in the directory of its file. -/
lemma exists_name (h : IsShadowOf file path) :
    ∃ name attempt, (Path.ofText file).name? = some name ∧
      path = (Path.ofText file).directory ++ nameFor (labelAt attempt) name := by
  obtain ⟨attempt, p, hwith, rfl⟩ := h
  obtain ⟨name, hname, rfl⟩ := Option.map_eq_some_iff.mp hwith
  exact ⟨name, attempt, hname, Path.toText_withName _ (by simp [nameFor])⟩

lemma ne_nil (h : IsShadowOf file path) : path ≠ [] := by
  obtain ⟨name, attempt, -, rfl⟩ := h.exists_name
  simp [nameFor]

lemma colon_not_mem (h : IsShadowOf file path) (hfile : ':' ∉ file) : ':' ∉ path := by
  obtain ⟨name, attempt, hname, rfl⟩ := h.exists_name
  have hdir : ':' ∉ (Path.ofText file).directory := fun hmem =>
    (Path.of_mem_directory hmem).elim (by decide) hfile
  have hcolon : ':' ∉ name := fun hmem => hfile ((Path.name?_ofText hname).2.2.subset hmem)
  rw [List.mem_append, not_or]
  exact ⟨hdir, not_mem_nameFor (by decide) (by decide) (by decide) hcolon attempt⟩

/-- The path of a plain file and that of its shadow have the same parts. -/
lemma exists_parts (h : IsShadowOf file path) (hplain : Plain file) :
    ∃ p : Parts, p.Proper ∧ p.file = file ∧ p.path = path ∧
      (Path.ofText file).name? = some (p.stem ++ '.' :: p.ext) := by
  obtain ⟨name, attempt, hname, rfl⟩ := h.exists_name
  obtain ⟨hne, hslash, -⟩ := Path.name?_ofText hname
  obtain ⟨stem, ext, rfl, hsplit⟩ := Path.splitName_of_suffix (hplain.suffixed name hname)
  let p : Parts := ⟨(Path.ofText file).directory, stem, labelAt attempt, ext⟩
  have hfile : p.file = file := by
    rw [← hplain.spelled, ← Path.withName_name? _ hname, Path.toText_withName _ hne]
    rfl
  have hpath : p.path = (Path.ofText file).directory
      ++ nameFor (labelAt attempt) (stem ++ '.' :: ext) := by
    rw [nameFor_of_splitName hsplit, Parts.path, Parts.lead, Parts.tail]
    simp only [List.append_assoc, List.cons_append, p]
  refine ⟨p, ?_, hfile, hpath, hname⟩
  exact {
    dir := Path.isDirectory_directory file
    stem_slash := fun hmem => hslash (List.mem_append_left _ hmem)
    label_digit := fun c hc => isDigit_of_mem_labelAt hc
    lead_mark := fun hoccurs => by
      rcases Text.infix_append_cons_first (by decide) hoccurs with hoccurs | hoccurs
      · exact hplain.no_mark (hfile ▸ hoccurs.trans (List.prefix_append _ _).isInfix)
      · exact hplain.no_mark_name _ hname
          (hoccurs.trans (List.prefix_append ('.' :: stem) ('.' :: ext)).isInfix)
    ext_mark := fun hoccurs => hplain.no_mark
      (hfile ▸ hoccurs.trans ⟨p.dir ++ p.stem, [], by simp [Parts.file, p]⟩) }

end IsShadowOf

/-! ## Restoring -/

/-- **An earlier shadow and a later one.**  If the path of the earlier shadow occurs in that of the
later one, both files are plain, and the first is not hidden in the name of the second one. -/
def Compatible (earlier later : Text × Text) : Prop :=
  earlier.2 <:+: later.2 → Plain earlier.1 ∧ Plain later.1 ∧ ¬ HiddenIn earlier.1 later.1

instance (earlier later : Text × Text) : Decidable (Compatible earlier later) :=
  inferInstanceAs (Decidable (_ → _))

section

variable {file path file' path' rest : Text}

/-- The path of the shadow itself is replaced by that of its file. -/
lemma replaceAll_self (hne : path ≠ []) (hcolon : ':' ∉ path) (hrest : ¬ path <:+: rest) :
    Text.replaceAll path file (path ++ ':' :: rest) = file ++ ':' :: rest := by
  have hunique : ∀ x y, x ++ path ++ y = [] ++ path ++ ':' :: rest → x = [] := by
    intro x y hxy
    rcases Text.occurrence_cases hcolon hxy with ⟨z, hz, -⟩ | ⟨z, -, hz⟩
    · have hlength := congrArg List.length hz
      simp only [List.nil_append, List.length_append] at hlength
      exact List.eq_nil_of_length_eq_zero (by omega)
    · exact absurd ⟨z, y, hz.symm⟩ hrest
  exact Text.replaceAll_of_unique file hne hunique

/-- **One replacement.**  In a diagnostic of a shadow, the path of an earlier shadow is not there,
or replacing it makes the diagnostic one of the file. -/
lemma replaceAll_other (hshadow : IsShadowOf file path) (hshadow' : IsShadowOf file' path')
    (hcolon : ':' ∉ path) (hrest : ¬ path <:+: rest)
    (hcompatible : Compatible (file, path) (file', path')) :
    Text.replaceAll path file (path' ++ ':' :: rest) = path' ++ ':' :: rest ∨
      Text.replaceAll path file (path' ++ ':' :: rest) = file' ++ ':' :: rest := by
  by_cases hoccurs : path <:+: path'
  · obtain ⟨hplain, hplain', hhidden⟩ := hcompatible hoccurs
    obtain ⟨p, hp, rfl, rfl, -⟩ := hshadow.exists_parts hplain
    obtain ⟨q, hq, rfl, rfl, hname⟩ := hshadow'.exists_parts hplain'
    obtain ⟨d, e, h⟩ := hoccurs
    have hunique : ∀ x y, x ++ p.path ++ y = d ++ p.path ++ (e ++ ':' :: rest) → x = d := by
      intro x y hxy
      rw [← List.append_assoc, h] at hxy
      rcases Text.occurrence_cases hcolon hxy with ⟨z, hz, -⟩ | ⟨z, -, hz⟩
      · -- The marks are the same here and there, and so are the beginnings.
        have hlead := (hq.lead_tail_eq hz.symm).1.trans (hq.lead_tail_eq h).1.symm
        exact List.append_cancel_right hlead
      · exact absurd ⟨z, y, hz.symm⟩ hrest
    have hreplace := Text.replaceAll_of_unique p.file hshadow.ne_nil hunique
    rw [← List.append_assoc, h] at hreplace
    have hfile := hp.file_eq hq h fun hoccurs => hhidden ⟨_, hname, hoccurs⟩
    exact Or.inr (by rw [hreplace, hfile, List.append_assoc (d ++ p.file)])
  · exact Or.inl (Text.replaceAll_eq_self _ (Text.not_infix_append_cons hcolon hoccurs hrest))

end

/-- Some of the replacements that `restore` makes. -/
def restoreAll (entries : List (Text × Text)) (output : Text) : Text :=
  entries.foldl (fun output (file, shadow) => Text.replaceAll shadow file output) output

lemma restore_eq_restoreAll (shadows : Table Text Text) (output : Text) :
    restore shadows output = restoreAll shadows.entries output := rfl

lemma restoreAll_cons (file path : Text) (entries : List (Text × Text)) (output : Text) :
    restoreAll ((file, path) :: entries) output
      = restoreAll entries (Text.replaceAll path file output) := rfl

section

variable {file path rest : Text}

/-- In a diagnostic of a file, nothing is replaced any more. -/
lemma restoreAll_file : ∀ {entries : List (Text × Text)},
    (∀ e ∈ entries, ':' ∉ e.2 ∧ ¬ e.2 <:+: rest ∧ ¬ e.2 <:+: file) →
      restoreAll entries (file ++ ':' :: rest) = file ++ ':' :: rest
  | [], _ => rfl
  | (file', path') :: entries, h => by
      obtain ⟨hcolon, hrest, hfile⟩ := h _ List.mem_cons_self
      rw [restoreAll_cons,
        Text.replaceAll_eq_self _ (Text.not_infix_append_cons hcolon hfile hrest)]
      exact restoreAll_file fun e he => h e (List.mem_cons_of_mem _ he)

/-- **All replacements**, one after the other.  Before the turn of a file comes, its diagnostic has
the path of the shadow or already that of the file; from its turn on, that of the file. -/
lemma restoreAll_path : ∀ {entries : List (Text × Text)},
    (∀ e ∈ entries, IsShadowOf e.1 e.2) →
      (∀ e ∈ entries, ':' ∉ e.2 ∧ ¬ e.2 <:+: rest ∧ ¬ e.2 <:+: file) →
        entries.Pairwise Compatible → (file, path) ∈ entries →
          restoreAll entries (path ++ ':' :: rest) = file ++ ':' :: rest
  | (file', path') :: entries, hshadow, h, hcompatible, hmem => by
      obtain ⟨hcolon, hrest, -⟩ := h _ List.mem_cons_self
      obtain ⟨hfirst, hcompatible⟩ := List.pairwise_cons.mp hcompatible
      have hothers : ∀ e ∈ entries, ':' ∉ e.2 ∧ ¬ e.2 <:+: rest ∧ ¬ e.2 <:+: file :=
        fun e he => h e (List.mem_cons_of_mem _ he)
      have hshadow' := hshadow _ List.mem_cons_self
      rw [restoreAll_cons]
      rcases List.mem_cons.mp hmem with heq | hmem
      · obtain ⟨rfl, rfl⟩ := Prod.mk.inj heq
        rw [replaceAll_self hshadow'.ne_nil hcolon hrest]
        exact restoreAll_file hothers
      · have hown := hshadow _ (List.mem_cons_of_mem _ hmem)
        rcases replaceAll_other hshadow' hown hcolon hrest (hfirst _ hmem) with hsame | hdone
        · rw [hsame]
          exact restoreAll_path (fun e he => hshadow e (List.mem_cons_of_mem _ he)) hothers
            hcompatible hmem
        · rw [hdone]
          exact restoreAll_file hothers

end

/-! ## The names of shadows -/

/-- The shadows in the table have the names of shadows. -/
def Named (bench : Workbench) : Prop :=
  ∀ file path, bench.shadows.get? file = some path → IsShadowOf file path

lemma Named.start (bench : Workbench) (h : bench.shadows = .empty) : Named bench := by
  intro file path hget
  rw [h] at hget
  cases hget

/-- What leaves the table alone leaves the names alone. -/
lemma Named.of_keeps {α : Type} {run : Run α} (h : Keeps (·.shadows) run) :
    Triple Named run (fun _ => Named) Named := by
  refine Triple.iff_snd.mpr fun bench hbench file path hget => hbench file path ?_
  have hshadows : (run.on bench).2.shadows = bench.shadows := h bench
  rw [← hshadows, hget]

section

variable (dir : Path)

lemma unusedFrom_named (file : Text) : ∀ attempt more : Nat,
    Triple Named (unusedFrom dir (.ofText file) attempt more)
      (fun path bench => IsShadowOf file path ∧ Named bench) Named
  | _, 0 => Triple.throw fun _ h => h
  | attempt, more + 1 => by
      unfold unusedFrom
      split
      · exact Triple.throw fun _ h => h
      · next p hp =>
          have hexists : Keeps (·.shadows) (Run.pathExists (dir.under p)) :=
            Keeps.bind Keeps.get fun _ => Keeps.ofFile _
          refine Triple.bind (Named.of_keeps hexists) fun found => ?_
          cases found with
          | true => exact unusedFrom_named file (attempt + 1) more
          | false => exact Triple.pure fun _ h => ⟨⟨attempt, p, hp, rfl⟩, h⟩

lemma unused_named (file : Text) :
    Triple Named (unused dir file) (fun path bench => IsShadowOf file path ∧ Named bench) Named :=
  Triple.bind Triple.get fun _ => (unusedFrom_named dir file _ _).mono_pre fun _ h => h.2

lemma record_named (file path : Text) {failed : Workbench → Prop} :
    Triple (fun bench => IsShadowOf file path ∧ Named bench) (record file path) (fun _ => Named)
      failed := by
  refine Triple.modify fun bench ⟨hshadow, hnamed⟩ file' path' hget => ?_
  rw [Table.get?_insert] at hget
  split at hget
  · next heq =>
      cases hget
      exact heq ▸ hshadow
  · exact hnamed file' path' hget

lemma stageFile_named (file text : Text) :
    Triple Named (stageFile dir file text) (fun _ => Named) Named := by
  refine Triple.bind (Triple.get.mono_post fun _ _ h => h.2) fun seen => ?_
  cases seen.shadows.get? file with
  | some path => exact Named.of_keeps (Keeps.writeText (fun _ _ => rfl) _ _)
  | none =>
      refine Triple.bind (unused_named dir file) fun path => ?_
      have hcreate : Keeps (·.shadows) (Run.createText (dir.under (.ofText path)) text) :=
        Keeps.createText (fun _ _ => rfl) _ _
      refine Triple.bind (fun bench h => ?_) fun _ => record_named file path
      exact (Named.of_keeps hcreate).mono_post (fun _ _ hnamed => ⟨h.1, hnamed⟩) bench h.2

lemma stage_named (files : List (Text × Text)) :
    Triple Named (stage dir files) (fun _ => Named) Named :=
  Triple.forM_invariant files fun (file, text) _ => stageFile_named dir file text

lemma step_named (step : Step) :
    Triple Named (step.run dir) (fun _ => Named) Named := by
  cases step with
  | stage files =>
      exact Triple.bind (stage_named dir files) fun _ => Triple.pure fun _ h => h
  | pathFor file => exact Triple.bind Triple.get fun _ => Triple.pure fun _ h => h.2
  | restore output => exact Triple.bind Triple.get fun _ => Triple.pure fun _ h => h.2
  | cleanup =>
      refine Triple.bind ?_ fun _ => Triple.pure fun _ h => h
      refine Triple.bind Triple.get fun seen => ?_
      have hremove : Keeps (·.shadows) (seen.shadows.values.forM fun shadow =>
          Run.remove (dir.under (.ofText shadow))) :=
        Keeps.forM (fun _ => Keeps.remove (fun _ _ => rfl) _) _
      refine Triple.bind ((Named.of_keeps hremove).mono_pre fun _ h => h.2) fun _ => ?_
      exact Triple.modify fun bench _ => Named.start _ rfl

lemma perform_named (steps : List Step) {failed : Workbench → Prop} :
    Triple Named (perform dir steps) (fun _ => Named) failed := by
  refine Triple.forM_invariant steps fun step _ => ?_
  exact Triple.tryCatch (Triple.map (step_named dir step)) fun _ => Triple.pure fun _ h => h

end

/-! ## From staging to restoring -/

/-- A file with a text other than the one from before has a shadow. -/
lemma Staged.mem_keys {dir : Path} {base : FileTree} {current : Table Text Text} {bench : Workbench}
    (h : Staged dir base .empty current bench) {file : Text} (hfile : file ∈ current.keys) :
    file ∈ bench.shadows.keys := by
  obtain ⟨shades, hkept, hshows⟩ := h
  by_contra hmem
  have hnone := hkept.get?_eq_none_iff.mp ((Table.get?_eq_none_iff _ _).mpr hmem)
  have hget : current.get? file = none := hshows.get?_eq file hnone
  exact (Table.get?_eq_none_iff _ _).mp hget hfile

/-- Whatever has been staged has a shadow. -/
lemma stage_keys (dir : Path) (base : FileTree) (files : List (Text × Text)) :
    Triple (InUse dir base) (stage dir files)
      (fun _ bench => ∀ file ∈ files.map Prod.fst, file ∈ bench.shadows.keys) (InUse dir base) := by
  intro bench hbench
  obtain ⟨current, hstaged⟩ := hbench.exists_staged
  refine (stage_triple dir base .empty current files).mono_post (fun _ _ h file hfile => ?_)
    bench hstaged
  exact h.mem_keys (Table.mem_keys_insertAll.mpr (Or.inr hfile))

/-- **The paths of shadows are put back.**  Files may be staged in any steps and any order; all that
have been staged have shadows, and a diagnostic of a shadow becomes one of its file.  No path of a
file may hold a colon or the path of a shadow, and an earlier shadow has to be compatible with every
later one. -/
theorem restore_pathFor (dir : Path) (tree : FileTree) (replies : List Reply) (steps : List Step)
    (files : List (Text × Text)) {after : Workbench}
    (hstage : (do perform dir steps; stage dir files : Run Unit).on { tree, replies }
      = (.ok (), after))
    (hfiles : ∀ file ∈ after.shadows.keys,
      ':' ∉ file ∧ ∀ path ∈ after.shadows.values, ¬ path <:+: file)
    (hcompatible : after.shadows.entries.Pairwise Compatible) :
    (∀ file ∈ files.map Prod.fst, file ∈ after.shadows.keys) ∧
      ∀ file ∈ after.shadows.keys, ∀ rest : Text, rest.head? = some ':' →
        (∀ path ∈ after.shadows.values, ¬ path <:+: rest) →
          restore after.shadows (pathFor after.shadows file ++ rest) = file ++ rest := by
  have hnamed : Named after := by
    have htriple : Triple Named (do perform dir steps; stage dir files : Run Unit)
        (fun _ => Named) Named :=
      Triple.bind (perform_named dir steps) fun _ => stage_named dir files
    exact htriple.of_ok (Named.start _ rfl) hstage
  constructor
  · have htriple : Triple (InUse dir tree) (do perform dir steps; stage dir files : Run Unit)
        (fun _ bench => ∀ file ∈ files.map Prod.fst, file ∈ bench.shadows.keys) (InUse dir tree) :=
      Triple.bind (perform_inUse dir tree steps) fun _ => stage_keys dir tree files
    exact htriple.of_ok (InUse.start dir { tree, replies } rfl) hstage
  · intro file hfile rest hhead hrest
    obtain ⟨rest, rfl⟩ : ∃ rest', rest = ':' :: rest' := List.head?_eq_some_iff.mp hhead
    obtain ⟨path, hget⟩ :=
      Option.isSome_iff_exists.mp ((Table.isSome_get?_iff after.shadows file).mpr hfile)
    have hshadow : ∀ e ∈ after.shadows.entries, IsShadowOf e.1 e.2 := fun e he =>
      hnamed _ _ (Table.get?_of_mem he)
    have hentries : ∀ e ∈ after.shadows.entries,
        ':' ∉ e.2 ∧ ¬ e.2 <:+: rest ∧ ¬ e.2 <:+: file := by
      intro e he
      have hpath : e.2 ∈ after.shadows.values := List.mem_map_of_mem he
      have hcolon := (hfiles e.1 (List.mem_map_of_mem he)).1
      refine ⟨(hshadow e he).colon_not_mem hcolon, fun hoccurs => ?_, (hfiles file hfile).2 _ hpath⟩
      exact hrest _ hpath (hoccurs.trans (List.suffix_cons ':' rest).isInfix)
    rw [pathFor, hget, Option.getD_some, restore_eq_restoreAll]
    exact restoreAll_path hshadow hentries hcompatible (Table.mem_of_get? hget)

/-- The path of the shadow of `b.mo` occurs in those of the other two; one of them is restored
before it and the other one after it. -/
theorem restore_pathFor_inside :
    let tree : FileTree := ⟨.ofList [(["lib"], .directory)]⟩
    let steps := [Step.stage [("a.b.mo", "1"), ("b.mo", "2")]]
    let files : List (Text × Text) := [("lib/b.mo", "3")]
    let run : Run Unit := do perform (.ofText "/") steps; stage (.ofText "/") files
    let after := (run.on { tree }).2
    let paths : List Text := [".a.b.mofix.mo", ".b.mofix.mo", "lib/.b.mofix.mo"]
    let rest : Text := ":1.1-1.2: warning [M0223], x"
    after.shadows.values = paths ∧ ∀ file ∈ after.shadows.keys,
      restore after.shadows (pathFor after.shadows file ++ rest) = file ++ rest := by
  intro tree steps files run after paths rest
  have hfacts : (run.on { tree }).1.isOk ∧
      (∀ file ∈ after.shadows.keys,
        ':' ∉ file ∧ ∀ path ∈ after.shadows.values, ¬ path <:+: file) ∧
      after.shadows.entries.Pairwise Compatible ∧
      (∀ path ∈ after.shadows.values, ¬ path <:+: rest) ∧ after.shadows.values = paths := by
    decide +kernel
  obtain ⟨hok, hfiles, hcompatible, hrest, hvalues⟩ := hfacts
  have hstage : run.on { tree } = (.ok (), after) := Run.on_of_isOk hok
  obtain ⟨-, hrestore⟩ :=
    restore_pathFor (.ofText "/") tree [] steps files hstage hfiles hcompatible
  exact ⟨hvalues, fun file hfile => hrestore file hfile rest rfl hrest⟩

/-- **A name inside a later one.**  With `b.mo` staged first, the end of the other shadow's path is
taken for the path of its shadow. -/
theorem restore_pathFor_hidden :
    let run : Run Unit := stage (.ofText "/") [("b.mo", "x"), ("a.b.mo", "y")]
    let after := (run.on {}).2
    let rest : Text := ":1.1-1.2: warning [M0223], x"
    run.on {} = (.ok (), after) ∧ (∀ file ∈ after.shadows.keys, Plain file ∧ ':' ∉ file) ∧
      (∀ path ∈ after.shadows.values, ¬ path <:+: rest) ∧ ("a.b.mo" : Text) ∈ after.shadows.keys ∧
      restore after.shadows (pathFor after.shadows "a.b.mo" ++ rest) = (".ab.mo" : Text) ++ rest ∧
      restore after.shadows (pathFor after.shadows "a.b.mo" ++ rest)
        ≠ ("a.b.mo" : Text) ++ rest := by
  intro run after rest
  have hok : (run.on {}).1.isOk := by decide +kernel
  exact ⟨Run.on_of_isOk hok, by decide +kernel⟩

end Shadow

end Amend
