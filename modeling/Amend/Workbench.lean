import Amend.Fault
import Amend.Notice

/-!
# The workbench

All that a run can see and change: the file tree, the compiler, and what has been printed.  The
compiler is known by its replies, which are used up one by one; every invocation is kept, with what
the checked file held at that moment.

A run may fail.  What it did before the failure stays done, so `Run` carries the workbench through
failures as well.
-/

namespace Amend

/-- What comes of starting the compiler. -/
inductive Reply where
  | finished (exitCode : Int) (out err : Text)
  /-- There is no such program. -/
  | missing
  /-- The program may not be run. -/
  | denied
  /-- The program did not end in time. -/
  | timedOut
  deriving DecidableEq, Repr, Inhabited

namespace Reply

/-- The reply of a compiler that has nothing to say. -/
def silent : Reply := .finished 0 [] []

end Reply

/-- One start of the compiler. -/
structure Invocation where
  command : List Text
  timeout : Option Seconds
  /-- What the checked file held, if there was one. -/
  content : Option Content
  deriving Inhabited

/-- Something that a run prints or has to say. -/
inductive Emission where
  | out (t : Text)
  | err (t : Text)
  | note (n : Notice)
  deriving DecidableEq, Repr

/-- The state of a run. -/
structure Workbench where
  tree : FileTree := .empty
  /-- The replies of the compiler that are still to come; after them it is silent. -/
  replies : List Reply := []
  invocations : List Invocation := []
  /-- The hidden copies in use: for each file the path of its copy. -/
  shadows : Table Text Text := .empty
  transcript : List Emission := []
  deriving Inhabited

/-- A computation on a workbench that may fail. -/
abbrev Run := ExceptT Fault (StateM Workbench)

namespace Run

/-- Runs a computation. -/
def on {α : Type} (run : Run α) (bench : Workbench) : Except Fault α × Workbench :=
  (ExceptT.run run).run bench

/-- Prints or notes something.  This is assumed to succeed: a standard output that is closed, or that
cannot take a character, is not part of the workbench. -/
def emit (e : Emission) : Run Unit :=
  modify fun bench => { bench with transcript := bench.transcript ++ [e] }

/-- Notes something. -/
def note (n : Notice) : Run Unit := emit (.note n)

/-- The result of an operation on files. -/
def ofFile {α : Type} : Except FileError α → Run α
  | .ok a => pure a
  | .error e => throw (.file e)

/-- Does the path name anything? -/
def pathExists (p : Path) : Run Bool := do ofFile ((← get).tree.pathExists p)

/-- Does the path name a file? -/
def isFile (p : Path) : Run Bool := do ofFile ((← get).tree.isFile p)

/-- The text of a file. -/
def readText (p : Path) : Run Text := do
  let content ← ofFile ((← get).tree.read p)
  match content.toText with
  | .ok t => pure t
  | .error e => throw (.undecodable e)

/-- Puts another tree in place. -/
def setTree (tree : FileTree) : Run Unit := modify fun bench => { bench with tree }

/-- Replaces or creates a file. -/
def writeText (p : Path) (t : Text) : Run Unit := do
  setTree (← ofFile ((← get).tree.write p (.text t)))

/-- Creates a file where nothing is yet. -/
def createText (p : Path) (t : Text) : Run Unit := do
  setTree (← ofFile ((← get).tree.create p (.text t)))

/-- Removes a file if it is there. -/
def remove (p : Path) : Run Unit := do
  setTree (← ofFile ((← get).tree.remove p))

/-- Does something afterwards, whether or not the first part fails. -/
def andFinally {α : Type} (run : Run α) (after : Run Unit) : Run α := do
  let result ← ExceptT.lift (ExceptT.run run)
  after
  match result with
  | .ok a => pure a
  | .error fault => throw fault

end Run

end Amend
