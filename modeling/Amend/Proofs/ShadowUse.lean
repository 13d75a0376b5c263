import Amend.Proofs.Staging

/-!
# The use of shadows from beginning to end

Texts may be staged as often as one likes, under any names: under two names for one file, under a
name whose shadow is taken, in a directory that does not exist.  In between, the shadows may be
removed and others made.  Each of these steps can fail after a part of its work, and so can whatever
else is done with the shadows.

* `Shadow.Step` are the steps, `Shadow.perform` makes them one after the other, and
  `Shadow.withShadows` is the whole: the steps, an end that may be a failure, and the removal of all
  shadows.
* `Shadow.Step.cut` is a step that has got as far as its first `n` files.  Every moment of a use of
  shadows is some steps and a step that is cut off.
* `step_inUse`: after every step the table of shadows and the tree agree.
* `cut_within`: no file that was there before is ever touched.
* `withShadows_on`: in the end the tree is the one from before.
-/

namespace Amend

open Run (Triple Keeps OnlyPrints)

/-- **Everything is still there.**  The second tree has all entries of the first; each file holds
what it held. -/
def FileTree.Within (base tree : FileTree) : Prop :=
  ∀ loc entry, base.entry? loc = some entry → tree.entry? loc = some entry

lemma FileTree.Adds.within {base tree : FileTree} {files : List (Location × Text)}
    (h : Adds base files tree) : base.Within tree := fun _ _ hentry => h.entry?_base hentry

namespace Shadow

/-! ## Steps -/

/-- What can be done with shadows. -/
inductive Step where
  | stage (files : List (Text × Text))
  | pathFor (file : Text)
  | restore (output : Text)
  | cleanup

namespace Step

/-- Makes a step.  A question is answered with a text. -/
def run (dir : Path) : Step → Run (Option Text)
  | stage files => do
    Shadow.stage dir files
    pure none
  | pathFor file => do pure (some (Shadow.pathFor (← get).shadows file))
  | restore output => do pure (some (Shadow.restore (← get).shadows output))
  | cleanup => do
    Shadow.cleanup dir
    pure none

/-- The step up to a moment at which it has staged or removed its first `n` files. -/
def cut (dir : Path) (n : Nat) : Step → Run Unit
  | stage files => Shadow.stage dir (files.take n)
  | pathFor _ => pure ()
  | restore _ => pure ()
  | cleanup => do
    ((← get).shadows.values.take n).forM fun shadow => Run.remove (dir.under (.ofText shadow))

end Step

/-- Makes steps one after the other.  What a failed step has done stays done, and the next step
follows. -/
def perform (dir : Path) (steps : List Step) : Run Unit :=
  steps.forM fun step => tryCatch (discard (step.run dir)) fun _ => pure ()

/-- The use of shadows from beginning to end: the steps, how they end, which may be a failure, and
the removal of all shadows in any case. -/
def withShadows {α : Type} (dir : Path) (steps : List Step) (ending : Except Fault α) : Run α :=
  Run.andFinally (do perform dir steps; ofExcept ending) (cleanup dir)

/-! ## What a step keeps -/

section

variable {dir : Path} {base : FileTree} {bench : Workbench}

lemma InUse.within (h : InUse dir base bench) : base.Within bench.tree := by
  obtain ⟨shades, hkept⟩ := h
  exact hkept.adds.within

lemma InUse.start (dir : Path) (bench : Workbench) (hshadows : bench.shadows = .empty) :
    InUse dir bench.tree bench :=
  (Staged.start dir .empty bench hshadows).inUse

/-- Whatever the shadows hold, it is what has been staged since there were none. -/
lemma InUse.exists_staged (h : InUse dir base bench) :
    ∃ current, Staged dir base .empty current bench := by
  obtain ⟨shades, hkept⟩ := h
  have hnodup : ((shades.map fun s => (s.file, s.text)).map Prod.fst).Nodup := by
    rw [List.map_map]
    exact hkept.nodup_file
  refine ⟨⟨_, hnodup⟩, shades, hkept, ?_, ?_⟩
  · intro s hs
    exact Table.get?_of_mem (List.mem_map.mpr ⟨s, hs, rfl⟩)
  · intro file hfile
    rw [Table.get?_empty, Table.get?_eq_none_iff, Table.keys, List.map_map]
    intro hmem
    obtain ⟨s, hs, hsfile⟩ := List.mem_map.mp hmem
    exact hfile s hs hsfile

variable (dir base)

lemma stage_inUse (files : List (Text × Text)) :
    Triple (InUse dir base) (stage dir files) (fun _ => InUse dir base) (InUse dir base) := by
  intro bench hbench
  obtain ⟨current, hstaged⟩ := hbench.exists_staged
  exact (stage_triple dir base .empty current files).mono_post (fun _ _ h => h.inUse) bench hstaged

lemma cleanup_inUse :
    Triple (InUse dir base) (cleanup dir) (fun _ => InUse dir base) (InUse dir base) := by
  intro bench hbench
  rw [cleanup_on hbench]
  exact InUse.start dir { bench with tree := base, shadows := .empty } rfl

/-- **The invariant of a step**, whether or not it fails. -/
lemma step_inUse (step : Step) :
    Triple (InUse dir base) (step.run dir) (fun _ => InUse dir base) (InUse dir base) := by
  cases step with
  | stage files =>
      exact Triple.bind (stage_inUse dir base files) fun _ => Triple.pure fun _ h => h
  | pathFor file => exact Triple.bind Triple.get fun _ => Triple.pure fun _ h => h.2
  | restore output => exact Triple.bind Triple.get fun _ => Triple.pure fun _ h => h.2
  | cleanup => exact Triple.bind (cleanup_inUse dir base) fun _ => Triple.pure fun _ h => h

/-- **The invariant of all steps.**  None of their failures gets any further. -/
lemma perform_inUse (steps : List Step) {failed : Workbench → Prop} :
    Triple (InUse dir base) (perform dir steps) (fun _ => InUse dir base) failed := by
  refine Triple.forM_invariant steps fun step _ => ?_
  exact Triple.tryCatch (Triple.map (step_inUse dir base step)) fun _ => Triple.pure fun _ h => h

/-- **In the middle of a step** everything that was there before is still there. -/
lemma cut_within (step : Step) (n : Nat) :
    Triple (InUse dir base) (step.cut dir n) (fun _ after => base.Within after.tree)
      (fun after => base.Within after.tree) := by
  cases step with
  | stage files =>
      exact (stage_inUse dir base (files.take n)).mono (fun _ _ h => h.within) fun _ h => h.within
  | pathFor file => exact Triple.pure fun _ h => h.within
  | restore output => exact Triple.pure fun _ h => h.within
  | cleanup =>
      rintro bench ⟨shades, hkept⟩
      have hsplit := hkept.adds
      rw [← List.take_append_drop n shades] at hsplit
      obtain ⟨tree, htree, hremove⟩ := remove_first_on dir base (shades.drop n) (shades.take n)
        bench hsplit fun s hs => hkept.locate_eq s (List.mem_of_mem_take hs)
      have hcut : (Step.cleanup.cut dir n).on bench = (.ok (), { bench with tree }) := by
        rw [Step.cut, Run.on_bind_ok (Run.on_get bench), hkept.values_eq, ← List.map_take, hremove]
      rw [hcut]
      exact htree.within

end

/-! ## From beginning to end -/

/-- The shadows are removed whatever the steps did, and how they end is how the whole ends. -/
lemma withShadows_on {α : Type} {dir : Path} {base : FileTree} {bench : Workbench}
    (h : InUse dir base bench) (steps : List Step) (ending : Except Fault α) :
    ∃ after, (withShadows dir steps ending).on bench = (ending, after) ∧ after.tree = base ∧
      after.shadows = .empty := by
  have hperform : Triple (InUse dir base) (perform dir steps) (fun _ => InUse dir base)
      (fun _ => False) := perform_inUse dir base steps
  rcases hsteps : (perform dir steps).on bench with ⟨fault | _, middle⟩
  · exact (hperform.of_error h hsteps).elim
  · have hmiddle := hperform.of_ok h hsteps
    have hbody : (do perform dir steps; ofExcept ending : Run α).on bench = (ending, middle) := by
      rw [Run.on_bind_ok hsteps]
      cases ending <;> rfl
    refine ⟨{ middle with tree := base, shadows := .empty }, ?_, rfl, rfl⟩
    rw [withShadows, Run.on_andFinally, hbody, cleanup_on hmiddle]

/-- **Shadows leave no trace.**  After any steps and in the middle of any further one, everything
that was in the tree at the beginning is there and holds what it held.  When the use of shadows
ends, with a failure or without one, the tree is the one from the beginning. -/
theorem withShadows_leaves_no_trace (dir : Path) (tree : FileTree) (replies : List Reply)
    (steps : List Step) :
    (∀ (step : Step) (n : Nat), tree.Within
        ((do perform dir steps; step.cut dir n : Run Unit).on { tree, replies }).2.tree) ∧
      ∀ (α : Type) (ending : Except Fault α), ∃ after,
        (withShadows dir steps ending).on { tree, replies } = (ending, after) ∧
          after.tree = tree := by
  have hstart : InUse dir tree { tree, replies } := InUse.start dir { tree, replies } rfl
  constructor
  · intro step n
    have hcut : Triple (InUse dir tree) (do perform dir steps; step.cut dir n)
        (fun _ after => tree.Within after.tree) (fun after => tree.Within after.tree) :=
      Triple.bind (perform_inUse dir tree steps) fun _ => cut_within dir tree step n
    exact Triple.iff_snd.mp hcut _ hstart
  · intro α ending
    obtain ⟨after, hon, htree, -⟩ := withShadows_on hstart steps ending
    exact ⟨after, hon, htree⟩

/-- Two names for one file get a shadow each, and neither is the file whose name would have been the
first choice; the file in a directory that does not exist makes the step fail. -/
example :
    let tree : FileTree := ⟨.ofList [(["a.mo"], .file (.text "1")),
      ([".a.mofix.mo"], .file (.text "mine"))]⟩
    let shadows : List (Location × Entry) := [([".a.mofix1.mo"], .file (.text "2")),
      ([".a.mofix2.mo"], .file (.text "3"))]
    let steps := [Step.stage [("a.mo", "2"), ("./a.mo", "3"), ("gone/b.mo", "4"), ("c.mo", "5")]]
    let after := ((perform (.ofText "/") steps).on { tree }).2
    after.tree.entries.entries = tree.entries.entries ++ shadows ∧
      ((cleanup (.ofText "/")).on after).2.tree = tree := by
  decide +kernel

end Shadow

end Amend
