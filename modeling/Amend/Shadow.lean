import Amend.Compiler

/-!
# Shadow files

Fixes are shown to the compiler before they are written: the new text of a file goes into a hidden
copy next to it, its shadow, and the compiler checks the shadow.  A shadow has the stem and the
suffix of its file, so that relative imports lead where they led before; if its name is taken, a
number makes it different, so that no file of anybody else is ever replaced or removed.

* `Shadow.stage` writes new texts to shadows, `Shadow.cleanup` removes all shadows.
* `Shadow.pathFor` is the path that the compiler gets instead of a file, and `Shadow.restore` puts
  the file's own path back into the compiler's output.
* `Compiler.diagnose` checks several files, through their shadows if they have any.
-/

namespace Amend

namespace Shadow

/-- The name of a shadow; `label` is empty or a number. -/
def nameFor (label name : Text) : Text :=
  let (stem, suffix) := Path.splitName name
  '.' :: stem ++ (".mofix" : Text) ++ label ++ suffix

/-- The path of a shadow with the given label, next to the file. -/
def pathWith? (label : Text) (file : Path) : Option Path :=
  file.name?.map fun name => file.withName (nameFor label name)

/-- The label of the n-th attempt: none, then the numbers from one. -/
def labelAt : (attempt : Nat) → Text
  | 0 => []
  | n + 1 => Text.ofNat (n + 1)

/-- The path of a file's first shadow. -/
def shadowName (file : Text) : Run Text :=
  match pathWith? [] (.ofText file) with
  | some p => pure p.toText
  | none => throw (.emptyName (Path.ofText file).toText)

/-- The first path, from an attempt on, that names nothing yet; at most `more` attempts. -/
def unusedFrom (base : Path) (file : Path) (attempt : Nat) : (more : Nat) → Run Text
  | 0 => throw (.noFreeName file.toText)
  | more + 1 =>
    match pathWith? (labelAt attempt) file with
    | none => throw (.emptyName file.toText)
    | some p => do
      if ← Run.pathExists (base.under p) then unusedFrom base file (attempt + 1) more
      else pure p.toText

/-- The first shadow path of a file that names nothing yet.  Each attempt that fails meets another
entry of the tree, so one more attempt than there are entries suffices. -/
def unused (base : Path) (file : Text) : Run Text := do
  unusedFrom base (.ofText file) 0 ((← get).tree.entries.size + 1)

/-- Records the shadow of a file. -/
def record (file shadow : Text) : Run Unit :=
  modify fun bench => { bench with shadows := bench.shadows.insert file shadow }

/-- Writes the text of one file to its shadow, which is created the first time. -/
def stageFile (base : Path) (file text : Text) : Run Unit := do
  match (← get).shadows.get? file with
  | some shadow => Run.writeText (base.under (.ofText shadow)) text
  | none => do
    let shadow ← unused base file
    Run.createText (base.under (.ofText shadow)) text
    record file shadow

/-- Writes new texts to shadows. -/
def stage (base : Path) (files : List (Text × Text)) : Run Unit :=
  files.forM fun (file, text) => stageFile base file text

/-- The path that the compiler should check for a file. -/
def pathFor (shadows : Table Text Text) (file : Text) : Text := (shadows.get? file).getD file

/-- Replaces the paths of shadows by those of their files, one after the other. -/
def restore (shadows : Table Text Text) (output : Text) : Text :=
  shadows.entries.foldl (fun output (file, shadow) => Text.replaceAll shadow file output) output

/-- Removes all shadows. -/
def cleanup (base : Path) : Run Unit := do
  (← get).shadows.values.forM fun shadow => Run.remove (base.under (.ofText shadow))
  modify fun bench => { bench with shadows := .empty }

end Shadow

namespace Compiler

/-- The diagnostics of one file, checked through its shadow. -/
def diagnoseShadowed (c : Compiler) (file : Text) : Run Text := do
  let output ← c.check (Shadow.pathFor (← get).shadows file)
  pure (ownDiagnostics (Shadow.restore (← get).shadows output.diagnosticText) file)

/-- The diagnostics of one file, checked as it is. -/
def diagnosePlain (c : Compiler) (file : Text) : Run Text := do
  let output ← c.check file
  pure (ownDiagnostics output.diagnosticText file)

/-- The diagnostics of several files, one check each; nothing if there are none. -/
def diagnose (c : Compiler) (files : List Text) (shadowed : Bool := true) : Run (Option Text) := do
  let outputs ← files.mapM (if shadowed then c.diagnoseShadowed else c.diagnosePlain)
  pure (joinOutputs outputs)

end Compiler

end Amend
