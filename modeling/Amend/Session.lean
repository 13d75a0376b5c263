import Amend.Diagnostic.Line
import Amend.Edit.Apply
import Amend.Edit.Remap
import Amend.FileKey
import Amend.Notice
import Amend.Rule.Registry

/-!
# A fix pass

One pass takes the supplied files and the output of a compiler, and fixes what it can.  The
diagnostics are taken file by file, in the order in which the files are first reported.  For each
file the rules of phase one run first; the positions of the other diagnostics are then moved past
what was deleted, and the rules of phase two run on the text that is left.

* `Pass.step` treats the diagnostics of one reported path.
* `Session.fix` is a whole pass.  A session remembers how many diagnostics of each code the last
  pass saw and fixed.
* `Session.verify` compares these numbers with later output: of each code, as many diagnostics
  should be left as were not fixed.
-/

namespace Amend

/-- What a pass changed. -/
structure FixResult where
  /-- The new text of every changed file, by the path that it was supplied under. -/
  files : Table Text Text
  /-- How many fixes of each code were applied. -/
  counts : Counts
  deriving DecidableEq, Inhabited

/-- The state of a pass. -/
structure Pass where
  /-- The present text of the files that have been looked at. -/
  contents : Table Text Text := .empty
  fixed : Counts := .empty
  /-- The files whose text differs from what it was when a reported path led to them. -/
  changed : Table Text Text := .empty
  notices : List Notice := []
  deriving Inhabited

namespace Applied

/-- One notice for each fix that was skipped. -/
def notices (a : Applied) : List Notice :=
  a.skipped.map fun f => .overlap f.code f.range.start

end Applied

/-- The outcome of applying the fixes of one phase to a text. -/
def runPhase (reg : Registry) (phase : Phase) (ds : List Diagnostic) (text : Text) : Applied :=
  let codes := reg.codesOf phase
  let snapshot := Snapshot.ofText text
  applyFixes snapshot (reg.synthesize (ds.filter fun d => codes.contains d.code) snapshot)

namespace Pass

/-- Treats the diagnostics that were reported under one path. -/
def step (reg : Registry) (files : Table Text Text) (pass : Pass)
    (group : Text × List Diagnostic) : Pass :=
  match FileKey.find? files.keys group.1 with
  | none => { pass with notices := pass.notices ++ [.unknownFile group.1] }
  | some key =>
    let text := ((pass.contents.get? key) <|> (files.get? key)).getD []
    let one := runPhase reg .first group.2 text
    let two := runPhase reg .second (group.2.map (Diagnostic.pastFixes one.applied)) one.content
    { contents := pass.contents.insert key two.content
      fixed := two.countInto (one.countInto pass.fixed)
      changed := if two.content = text then pass.changed else pass.changed.insert key two.content
      notices := pass.notices ++ one.notices ++ two.notices }

/-- Treats all diagnostics of an output. -/
def run (reg : Registry) (files : Table Text Text) (ds : List Diagnostic) : Pass :=
  (Diagnostic.groupByFile ds).entries.foldl (step reg files) {}

/-- What the pass changed, if it changed anything. -/
def result? (pass : Pass) : Option FixResult :=
  if pass.changed.isEmpty then none else some ⟨pass.changed, pass.fixed⟩

end Pass

/-- The rules in use, and what the last pass saw and fixed. -/
structure Session where
  registry : Registry := .standard
  initial : Counts := .empty
  fixed : Counts := .empty
  deriving Inhabited

namespace Session

/-- The codes whose number need not fall with the fixes: removing one instantiation can bring to
light another one of the same call. -/
def unverifiable : List Text := ["M0223"]

/-- A fix pass over files and the output of a compiler for them.  Gives the session afterwards, what
was changed, and the notices on the way. -/
def fix (session : Session) (files : Table Text Text) (output : Option Text) :
    Session × Option FixResult × List Notice :=
  let ds := Diagnostic.parse output
  let pass := Pass.run session.registry files ds
  ({ session with initial := Diagnostic.countByCode ds, fixed := pass.fixed },
    pass.result?, pass.notices)

/-- Does the number of diagnostics of a code differ from what the last pass left? -/
def disagrees (session : Session) (code : Text) (actual : Int) : Bool :=
  !unverifiable.contains code && session.registry.has code &&
    decide (actual ≠ session.initial.count code - session.fixed.count code)

/-- One notice for each code of which later output has more or fewer diagnostics than the last pass
left, in the order of the codes. -/
def verify (session : Session) (output : Option Text) : List Notice :=
  ((Diagnostic.countByCode (Diagnostic.parse output)).sorted.filter
      fun (code, actual) => session.disagrees code actual).map
    fun (code, actual) =>
      .mismatch code actual (session.initial.count code) (session.fixed.count code)

end Session

end Amend
