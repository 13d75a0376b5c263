import Amend.RoundLimit
import Amend.Session

/-!
# Fixing until nothing is left to fix

One fix can bring new diagnostics to light, so the compiler is asked again after each pass.  The
rounds end when it reports nothing, when a pass changes nothing, or when their limit is reached.
Files are written only after the last round.

The rounds do not depend on where the files are and how the compiler is run.  `Host` is what they
need from outside, in any monad: reading and writing of files, the compiler, and a place for notices
and for the result of each round.

* `Progress.advance` is one round as a function: what to do next with the reply of the compiler.
* `drive` asks the compiler and does what `advance` says, round by round.
* `autofix` is the whole: read, drive, write.
-/

namespace Amend

/-- What the rounds need from outside. -/
structure Host (m : Type → Type) where
  /-- The text of a file, by the path that it is supplied under. -/
  read : Text → m Text
  write : (path text : Text) → m Unit
  /-- The output of the compiler for the files as they are now. -/
  diagnose : List Text → m (Option Text)
  /-- Takes the files that a round changed. -/
  onRound : Table Text Text → m Unit
  note : Notice → m Unit

/-- How far the rounds have got. -/
structure Progress where
  session : Session
  /-- The present text of each supplied file. -/
  current : Table Text Text
  totals : Counts := .empty
  warnings : List Text := []
  /-- The rounds that changed files. -/
  rounds : Nat := 0
  deriving Inhabited

/-- What a round comes to. -/
inductive Verdict where
  /-- The rounds are over. -/
  | stop
  /-- Files were changed. -/
  | changed (files : Table Text Text)

namespace Progress

/-- The state before the first round. -/
def start (registry : Registry) (files : Table Text Text) : Progress :=
  { session := { registry }, current := files }

/-- One round with the reply of the compiler: the state afterwards, the notices in order, and what
to do next.  From the second round on, the reply first has to agree with the fixes of the round
before. -/
def advance (p : Progress) (output : Option Text) : Progress × List Notice × Verdict :=
  if (output.getD []).isEmpty then (p, [.clean p.rounds], .stop)
  else
    let mismatches := if p.rounds = 0 then [] else p.session.verify output
    let warnings := p.warnings ++ mismatches.map Notice.message
    let (session, result, notices) := p.session.fix p.current output
    match result with
    | none =>
      ({ p with session, warnings }, mismatches ++ notices ++ [.nothingApplies (p.rounds + 1)],
        .stop)
    | some r =>
      ({ session
         current := p.current.insertAll r.files.entries
         totals := p.totals.addAll r.counts
         warnings
         rounds := p.rounds + 1 },
        mismatches ++ notices ++
          [.roundFixed (p.rounds + 1) r.files.size r.counts.entries],
        .changed r.files)

end Progress

/-- The outcome of all rounds. -/
structure Summary where
  /-- The final text of every changed file, in the order in which the files were supplied. -/
  files : Table Text Text
  /-- How many fixes of each code were applied. -/
  counts : Counts
  /-- The rounds that changed files. -/
  rounds : Nat
  warnings : List Text
  deriving DecidableEq, Inhabited

/-- The outcome, unless every file is as it was. -/
def Progress.summary? (p : Progress) (before : Table Text Text) : Option Summary :=
  let changed := p.current.filter fun (file, text) => before.get? file ≠ some text
  if changed.isEmpty then none
  else some { files := changed, counts := p.totals, rounds := p.rounds, warnings := p.warnings }

section

variable {m : Type → Type} [Monad m]

/-- Makes rounds, at most `limit` of them. -/
def drive (host : Host m) (paths : List Text) : (limit : Nat) → Progress → m Progress
  | 0, p => pure p
  | limit + 1, p => do
    let output ← host.diagnose paths
    let (p, notices, verdict) := p.advance output
    notices.forM host.note
    match verdict with
    | .stop => pure p
    | .changed files => do
      host.onRound files
      drive host paths limit p

/-- The texts of files, each read once. -/
def readAll (host : Host m) (paths : List Text) : m (Table Text Text) :=
  paths.eraseDups.foldlM (fun files path => do
    let text ← host.read path
    pure (files.insert path text)) Table.empty

/-- Fixes files in rounds and writes the changed ones, unless told not to. -/
def autofix (host : Host m) (registry : Registry) (paths : List Text) (limit : Nat)
    (write : Bool) : m (Option Summary) := do
  let before ← readAll host paths
  let p ← drive host paths limit (.start registry before)
  match p.summary? before with
  | none => pure none
  | some summary => do
    if write then
      summary.files.entries.forM fun (file, text) => host.write file text
    pure (some summary)

end

end Amend
