import Amend.Autofix
import Amend.Workbench

/-!
# Rounds with known output

The rounds of `autofix` when everything that the compiler is going to say is known beforehand.  Each
question to the compiler takes the next output of a list; after the last of them the compiler has
nothing to report.  Every question and the result of every round are kept, so that a run can be
looked at when it is over.

* `Replay` is the state: a workbench, the output still to come, and what has been kept.
* `Replay.host` is what the rounds see of it.
* `Replay.run` makes the rounds.  The limit that is asked for is looked at before anything else.
-/

namespace Amend

/-- A workbench with the output of the compiler known beforehand. -/
structure Replay where
  bench : Workbench := {}
  /-- The output still to come; after it the compiler reports nothing. -/
  outputs : List (Option Text) := []
  /-- The files of each question to the compiler. -/
  questions : List (List Text) := []
  /-- The files that each round changed. -/
  rounds : List (Table Text Text) := []
  deriving Inhabited

namespace Replay

/-- A computation on a replay that may fail. -/
abbrev Play := ExceptT Fault (StateM Replay)

/-- Does something on the workbench alone. -/
def onBench {α : Type} (run : Run α) : Play α := do
  let replay ← get
  let (result, bench) := run.on replay.bench
  set { replay with bench }
  match result with
  | .ok a => pure a
  | .error fault => throw fault

/-- Takes the next output and keeps the question. -/
def answer (replay : Replay) (files : List Text) : Option Text × Replay :=
  (replay.outputs.head?.join,
    { replay with outputs := replay.outputs.tail, questions := replay.questions ++ [files] })

/-- Keeps the result of a round. -/
def keepRound (replay : Replay) (files : Table Text Text) : Replay :=
  { replay with rounds := replay.rounds ++ [files] }

/-- The rounds with files of the tree below a directory and the known output. -/
def host (directory : Path) : Host Play where
  read := fun file => onBench (Run.readText (directory.under (.ofText file)))
  write := fun file text => onBench (Run.writeText (directory.under (.ofText file)) text)
  diagnose := fun files => modifyGet fun replay => replay.answer files
  onRound := fun files => modify fun replay => replay.keepRound files
  note := fun n => onBench (Run.note n)

/-- The rounds for a requested limit, which has to be at least one. -/
def play (directory : Path) (registry : Registry) (files : List Text) (requested : Int)
    (write : Bool) : Play (Option Summary) :=
  match roundLimit? requested with
  | none => throw .roundLimit
  | some limit => autofix (host directory) registry files limit write

/-- Makes the rounds and gives what comes of them, with the replay afterwards. -/
def run (replay : Replay) (directory : Path) (registry : Registry) (files : List Text)
    (requested : Int) (write : Bool) : Except Fault (Option Summary) × Replay :=
  (ExceptT.run (play directory registry files requested write)).run replay

end Replay

end Amend
