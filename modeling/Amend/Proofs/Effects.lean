import Amend.Workbench
import Mathlib.Tactic.Lemma

/-!
# What a run does to the workbench

A run may fail, and what it did before stays done.  To follow the workbench through all the places
at which a run can be interrupted, each part of it is given a triple: what holds before it, what
holds after it, and what holds where it fails.

* `Run.on_bind`, `Run.on_tryCatch`, `Run.on_andFinally` say how the combinators run.
* `Run.Triple` is the triple, with one rule for each combinator.  In `Triple.forM` the invariant
  depends on a state that a loop only has on paper, and that each round moves one step on.
* `Run.Keeps` says that a run leaves a part of the workbench alone.  Most runs look at the workbench
  and print, and leave all else alone (`Run.OnlyPrints`): whatever does not depend on the transcript
  holds after them if it held before (`OnlyPrints.triple`).
-/

namespace Amend.Run

variable {α β : Type}

/-! ## How the combinators run -/

lemma on_bind (x : Run α) (f : α → Run β) (bench : Workbench) :
    (x >>= f).on bench =
      match x.on bench with
      | (.ok a, after) => (f a).on after
      | (.error e, after) => (.error e, after) := by
  show (ExceptT.bindCont f (x.on bench).1) (x.on bench).2 = _
  rcases x.on bench with ⟨_ | _, _⟩ <;> rfl

lemma on_bind_ok {x : Run α} {bench after : Workbench} {a : α} (h : x.on bench = (.ok a, after))
    (f : α → Run β) : (x >>= f).on bench = (f a).on after := by
  rw [on_bind, h]

lemma on_bind_error {x : Run α} {bench after : Workbench} {e : Fault}
    (h : x.on bench = (.error e, after)) (f : α → Run β) :
    (x >>= f).on bench = (.error e, after) := by
  rw [on_bind, h]

lemma forM_cons (a : α) (l : List α) (body : α → Run Unit) :
    (a :: l).forM body = (body a >>= fun _ => l.forM body) := rfl

/-- Whether a run fails is decidable, whatever its failures are. -/
lemma on_of_isOk {x : Run Unit} {bench : Workbench} (h : (x.on bench).1.isOk) :
    x.on bench = (.ok (), (x.on bench).2) := by
  rcases hon : x.on bench with ⟨e | ⟨⟩, after⟩
  · rw [hon] at h
    cases h
  · rfl

lemma on_get (bench : Workbench) : (get : Run Workbench).on bench = (.ok bench, bench) := rfl

lemma on_tryCatch (x : Run α) (handle : Fault → Run α) (bench : Workbench) :
    (tryCatch x handle : Run α).on bench =
      match x.on bench with
      | (.ok a, after) => (.ok a, after)
      | (.error e, after) => (handle e).on after := by
  simp only [on, ExceptT.run_tryCatch, StateT.run_bind]
  show (match StateT.run (ExceptT.run x) bench with | (r, after) => _) = _
  rcases StateT.run (ExceptT.run x) bench with ⟨_ | _, _⟩ <;> rfl

/-- What is done afterwards starts from the workbench that the first part leaves, and decides only
by its own failure over the result. -/
lemma on_andFinally (x : Run α) (last : Run Unit) (bench : Workbench) :
    (x.andFinally last).on bench =
      match last.on (x.on bench).2 with
      | (.ok _, after) => ((x.on bench).1, after)
      | (.error e, after) => (.error e, after) := by
  have hlift : Run.on (ExceptT.lift (ExceptT.run x) : Run (Except Fault α)) bench
      = (.ok (x.on bench).1, (x.on bench).2) := rfl
  rw [andFinally, on_bind_ok hlift, on_bind]
  rcases last.on (x.on bench).2 with ⟨_ | _, _⟩
  · rfl
  · cases (x.on bench).1 <;> rfl

/-- In the end the workbench is what the last part makes of it. -/
lemma on_andFinally_snd (x : Run α) (last : Run Unit) (bench : Workbench) :
    ((x.andFinally last).on bench).2 = (last.on (x.on bench).2).2 := by
  rw [on_andFinally]
  rcases last.on (x.on bench).2 with ⟨_ | _, _⟩ <;> rfl

/-! ## How the operations on files run -/

lemma on_ofFile (x : Except FileError α) (bench : Workbench) :
    (ofFile x).on bench = (x.mapError .file, bench) := by
  cases x <;> rfl

lemma on_pathExists (p : Path) (bench : Workbench) :
    (pathExists p).on bench = ((bench.tree.pathExists p).mapError .file, bench) := by
  rw [pathExists, on_bind_ok (on_get bench), on_ofFile]

/-- Another tree is put in place, or the workbench stays as it is. -/
lemma on_setTree (op : FileTree → Except FileError FileTree) (bench : Workbench) :
    (do setTree (← ofFile (op (← get).tree)) : Run Unit).on bench =
      match op bench.tree with
      | .ok tree => (.ok (), { bench with tree })
      | .error e => (.error (.file e), bench) := by
  rw [on_bind_ok (on_get bench), on_bind, on_ofFile]
  cases op bench.tree <;> rfl

lemma on_writeText (p : Path) (t : Text) (bench : Workbench) :
    (writeText p t).on bench =
      match bench.tree.write p (.text t) with
      | .ok tree => (.ok (), { bench with tree })
      | .error e => (.error (.file e), bench) := on_setTree (·.write p (.text t)) bench

lemma on_createText (p : Path) (t : Text) (bench : Workbench) :
    (createText p t).on bench =
      match bench.tree.create p (.text t) with
      | .ok tree => (.ok (), { bench with tree })
      | .error e => (.error (.file e), bench) := on_setTree (·.create p (.text t)) bench

lemma on_remove (p : Path) (bench : Workbench) :
    (remove p).on bench =
      match bench.tree.remove p with
      | .ok tree => (.ok (), { bench with tree })
      | .error e => (.error (.file e), bench) := on_setTree (·.remove p) bench

/-! ## Triples -/

/-- **What holds around a run.**  If `pre` holds before it, `post` holds after it, and `failed` holds
where it fails. -/
def Triple (pre : Workbench → Prop) (run : Run α) (post : α → Workbench → Prop)
    (failed : Workbench → Prop) : Prop :=
  ∀ bench, pre bench →
    match run.on bench with
    | (.ok a, after) => post a after
    | (.error _, after) => failed after

namespace Triple

variable {pre pre' : Workbench → Prop} {post post' : α → Workbench → Prop}
  {failed failed' : Workbench → Prop} {run : Run α}

lemma of_ok (h : Triple pre run post failed) {bench after : Workbench} {a : α} (hpre : pre bench)
    (hrun : run.on bench = (.ok a, after)) : post a after := by
  have hat := h bench hpre
  rwa [hrun] at hat

lemma of_error (h : Triple pre run post failed) {bench after : Workbench} {e : Fault}
    (hpre : pre bench) (hrun : run.on bench = (.error e, after)) : failed after := by
  have hat := h bench hpre
  rwa [hrun] at hat

/-- What holds in any case, whether or not the run fails. -/
lemma iff_snd {always : Workbench → Prop} : Triple pre run (fun _ => always) always ↔
    ∀ bench, pre bench → always (run.on bench).2 := by
  refine forall_congr' fun bench => imp_congr_right fun _ => ?_
  rcases run.on bench with ⟨_ | _, _⟩ <;> rfl

lemma mono (h : Triple pre run post failed) (hpost : ∀ a bench, post a bench → post' a bench)
    (hfailed : ∀ bench, failed bench → failed' bench) : Triple pre run post' failed' := by
  intro bench hbench
  rcases hrun : run.on bench with ⟨_ | a, after⟩
  · exact hfailed after (h.of_error hbench hrun)
  · exact hpost a after (h.of_ok hbench hrun)

lemma mono_pre (h : Triple pre run post failed) (hpre : ∀ bench, pre' bench → pre bench) :
    Triple pre' run post failed := fun bench hbench => h bench (hpre bench hbench)

lemma mono_post (h : Triple pre run post failed) (hpost : ∀ a bench, post a bench → post' a bench) :
    Triple pre run post' failed := h.mono hpost fun _ hfailed => hfailed

lemma mono_failed (h : Triple pre run post failed)
    (hfailed : ∀ bench, failed bench → failed' bench) : Triple pre run post failed' :=
  h.mono (fun _ _ hpost => hpost) hfailed

protected lemma trivial (run : Run α) : Triple pre run (fun _ _ => True) (fun _ => True) :=
  iff_snd.mpr fun _ _ => True.intro

protected lemma pure {a : α} (h : ∀ bench, pre bench → post a bench) :
    Triple pre (pure a) post failed :=
  fun bench hbench => h bench hbench

protected lemma throw {e : Fault} (h : ∀ bench, pre bench → failed bench) :
    Triple pre (throw e : Run α) post failed :=
  fun bench hbench => h bench hbench

protected lemma get : Triple pre get (fun seen bench => seen = bench ∧ pre bench) failed :=
  fun _ hbench => ⟨rfl, hbench⟩

protected lemma modify {f : Workbench → Workbench} {post : Unit → Workbench → Prop}
    (h : ∀ bench, pre bench → post () (f bench)) : Triple pre (modify f) post failed :=
  fun bench hbench => h bench hbench

protected lemma bind {middle : α → Workbench → Prop} {next : α → Run β}
    {post : β → Workbench → Prop} (hrun : Triple pre run middle failed)
    (hnext : ∀ a, Triple (middle a) (next a) post failed) :
    Triple pre (run >>= next) post failed := by
  intro bench hbench
  rcases hon : run.on bench with ⟨e | a, after⟩
  · rw [on_bind_error hon]
    exact hrun.of_error hbench hon
  · rw [on_bind_ok hon]
    exact hnext a after (hrun.of_ok hbench hon)

protected lemma map {f : α → β} {post : β → Workbench → Prop}
    (hrun : Triple pre run (fun a => post (f a)) failed) : Triple pre (f <$> run) post failed := by
  rw [map_eq_pure_bind]
  exact Triple.bind hrun fun a => Triple.pure fun _ h => h

/-- What is printed changes nothing that does not depend on the transcript, and cannot fail. -/
protected lemma emit {invariant : Workbench → Prop}
    (h : ∀ bench transcript, invariant bench → invariant { bench with transcript }) (e : Emission) :
    Triple invariant (emit e) (fun _ => invariant) failed :=
  Triple.modify fun bench => h bench _

protected lemma tryCatch {handle : Fault → Run α} (hrun : Triple pre run post failed)
    (hhandle : ∀ e, Triple failed (handle e) post failed') :
    Triple pre (tryCatch run handle) post failed' := by
  intro bench hbench
  rw [on_tryCatch]
  rcases hon : run.on bench with ⟨e | a, after⟩
  · exact hhandle e after (hrun.of_error hbench hon)
  · exact hrun.of_ok hbench hon

/-- What is done in the end is done after success and after failure. -/
protected lemma andFinally {last : Run Unit} (hrun : Triple pre run post failed)
    (hok : ∀ a, Triple (post a) last (fun _ => post' a) failed')
    (herror : Triple failed last (fun _ => failed') failed') :
    Triple pre (run.andFinally last) post' failed' := by
  intro bench hbench
  rw [on_andFinally]
  rcases hon : run.on bench with ⟨e | a, after⟩
  · have hlast := herror after (hrun.of_error hbench hon)
    rcases hlaston : last.on after with ⟨_ | _, _⟩ <;> rw [hlaston] at hlast <;> exact hlast
  · have hlast := hok a after (hrun.of_ok hbench hon)
    rcases hlaston : last.on after with ⟨_ | _, _⟩ <;> rw [hlaston] at hlast <;> exact hlast

/-- **Loops.**  The invariant follows a state on paper, which each member moves one step on. -/
protected lemma forM {σ : Type} {invariant : σ → Workbench → Prop} {step : σ → α → σ}
    {body : α → Run Unit} : ∀ (l : List α) (s : σ),
      (∀ a ∈ l, ∀ s, Triple (invariant s) (body a) (fun _ => invariant (step s a)) failed) →
        Triple (invariant s) (l.forM body) (fun _ => invariant (l.foldl step s)) failed
  | [], s, _ => Triple.pure fun _ h => h
  | a :: l, s, h => by
      refine Triple.bind (h a List.mem_cons_self s) fun _ => ?_
      exact Triple.forM l (step s a) fun b hb => h b (List.mem_cons_of_mem a hb)

/-- Loops with an invariant that is the same in each round. -/
protected lemma forM_invariant {invariant : Workbench → Prop} {body : α → Run Unit} :
    ∀ l : List α, (∀ a ∈ l, Triple invariant (body a) (fun _ => invariant) failed) →
      Triple invariant (l.forM body) (fun _ => invariant) failed
  | [], _ => Triple.pure fun _ h => h
  | a :: l, h => Triple.bind (h a List.mem_cons_self) fun _ =>
      Triple.forM_invariant l fun b hb => h b (List.mem_cons_of_mem a hb)

end Triple

/-! ## What a run leaves alone -/

/-- The run leaves a part of the workbench as it is, also where it fails. -/
def Keeps {γ : Type} (part : Workbench → γ) (run : Run α) : Prop :=
  ∀ bench, part (run.on bench).2 = part bench

namespace Keeps

variable {γ : Type} {part : Workbench → γ}

protected lemma pure (a : α) : Keeps part (pure a) := fun _ => rfl

protected lemma throw (e : Fault) : Keeps part (throw e : Run α) := fun _ => rfl

protected lemma get : Keeps part get := fun _ => rfl

protected lemma modify {f : Workbench → Workbench} (h : ∀ bench, part (f bench) = part bench) :
    Keeps part (modify f) := h

protected lemma ofFile (x : Except FileError α) : Keeps part (ofFile x) := by
  cases x with
  | ok a => exact Keeps.pure a
  | error e => exact Keeps.throw _

/-- What comes after a run leaves the part as the run leaves it. -/
lemma on_bind_snd {next : α → Run β} (hnext : ∀ a, Keeps part (next a)) (run : Run α)
    (bench : Workbench) : part ((run >>= next).on bench).2 = part (run.on bench).2 := by
  rcases hon : run.on bench with ⟨e | a, after⟩
  · rw [on_bind_error hon]
  · rw [on_bind_ok hon, hnext a after]

protected lemma bind {run : Run α} {next : α → Run β} (hrun : Keeps part run)
    (hnext : ∀ a, Keeps part (next a)) : Keeps part (run >>= next) :=
  fun bench => (on_bind_snd hnext run bench).trans (hrun bench)

protected lemma readText (p : Path) : Keeps part (readText p) := by
  refine Keeps.bind Keeps.get fun _ => Keeps.bind (Keeps.ofFile _) fun content => ?_
  cases content.toText with
  | ok t => exact Keeps.pure t
  | error e => exact Keeps.throw _

protected lemma forM {body : α → Run Unit} (h : ∀ a, Keeps part (body a)) :
    ∀ l : List α, Keeps part (l.forM body)
  | [] => Keeps.pure _
  | a :: l => Keeps.bind (h a) fun _ => Keeps.forM h l

protected lemma filterM {test : α → Run Bool} (h : ∀ a, Keeps part (test a)) (l : List α) :
    Keeps part (l.filterM test) := by
  have hloop : ∀ l found : List α, Keeps part (List.filterAuxM test l found) := by
    intro l
    induction l with
    | nil => exact fun found => Keeps.pure found
    | cons a l ih => exact fun found => Keeps.bind (h a) fun b => ih _
  exact Keeps.bind (hloop l []) fun _ => Keeps.pure _

section

variable (hpart : ∀ bench tree, part { bench with tree } = part bench)

include hpart

protected lemma setTree (op : FileTree → Except FileError FileTree) :
    Keeps part (do Run.setTree (← ofFile (op (← get).tree))) :=
  Keeps.bind Keeps.get fun _ => Keeps.bind (Keeps.ofFile _) fun _ => Keeps.modify fun _ => hpart _ _

protected lemma writeText (p : Path) (t : Text) : Keeps part (writeText p t) :=
  Keeps.setTree hpart (·.write p (.text t))

protected lemma createText (p : Path) (t : Text) : Keeps part (createText p t) :=
  Keeps.setTree hpart (·.create p (.text t))

protected lemma remove (p : Path) : Keeps part (remove p) := Keeps.setTree hpart (·.remove p)

end

/-- What holds of the part holds after the run, and where it fails. -/
protected lemma triple {run : Run α} (h : Keeps part run) (value : γ) :
    Triple (fun bench => part bench = value) run (fun _ bench => part bench = value)
      (fun bench => part bench = value) :=
  Triple.iff_snd.mpr fun bench hbench => (h bench).trans hbench

end Keeps

/-- The run leaves everything as it is, except for what has been printed. -/
abbrev OnlyPrints (run : Run α) : Prop :=
  Keeps (fun bench => { bench with transcript := [] }) run

namespace OnlyPrints

protected lemma emit (e : Emission) : OnlyPrints (emit e) := fun _ => rfl

lemma on_eq {run : Run α} (h : OnlyPrints run) (bench : Workbench) :
    (run.on bench).2 = { bench with transcript := (run.on bench).2.transcript } :=
  congrArg (fun b => { b with transcript := (run.on bench).2.transcript }) (h bench)

protected lemma keeps {γ : Type} {part : Workbench → γ} {run : Run α} (h : OnlyPrints run)
    (hpart : ∀ bench transcript, part { bench with transcript } = part bench) :
    Keeps part run := by
  intro bench
  rw [h.on_eq bench, hpart]

/-- What does not depend on the transcript holds after such a run, and where it fails. -/
protected lemma triple {run : Run α} (h : OnlyPrints run) {invariant : Workbench → Prop}
    (hinvariant : ∀ bench transcript, invariant bench → invariant { bench with transcript }) :
    Triple invariant run (fun _ => invariant) invariant := by
  refine Triple.iff_snd.mpr fun bench hbench => ?_
  rw [h.on_eq bench]
  exact hinvariant bench _ hbench

end OnlyPrints

end Amend.Run
