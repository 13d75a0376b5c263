import Amend.Diagnostic.Line
import Amend.FileKey
import Amend.Text.Lines
import Amend.Workbench

/-!
# Running the compiler

One file is checked by one invocation `program --check file arguments`.  `CheckOutput` is what comes
back, and `CheckOutput.diagnosticText` the part of it that is looked at: the error output, and the
standard output unless it is blank.

A check of one file also reports on the files that it imports.  `ownDiagnostics` drops those lines:
each file speaks for itself, in its own check.
-/

namespace Amend

/-- A compiler and how it is run. -/
structure Compiler where
  program : Text
  args : List Text := []
  timeout : Option Seconds := none
  /-- The directory in which it works. -/
  directory : Path
  deriving Inhabited

/-- What an invocation printed. -/
structure CheckOutput where
  file : Text
  exitCode : Int
  out : Text
  err : Text
  deriving DecidableEq, Repr, Inhabited

namespace CheckOutput

/-- Did the check succeed? -/
def ok (o : CheckOutput) : Bool := o.exitCode == 0

/-- The error output, then the standard output unless it is blank, each followed by a line end. -/
def diagnosticText (o : CheckOutput) : Text :=
  (if o.err.isEmpty then [] else o.err ++ ['\n']) ++
    (if o.out.isBlankText then [] else o.out ++ ['\n'])

end CheckOutput

/-- Is the line a diagnostic of another file than the given one? -/
def isForeign (file line : Text) : Bool :=
  match Diagnostic.parseAll line with
  | d :: _ => (FileKey.find? [file] d.file).isNone
  | [] => false

/-- The output without the diagnostics of other files; lines that are no diagnostics stay. -/
def ownDiagnostics (output file : Text) : Text :=
  Text.joinWith ['\n'] (output.splitLines.filter fun line => !isForeign file line)

/-- The output for several files, without the blank ones; nothing if all are blank. -/
def joinOutputs (outputs : List Text) : Option Text :=
  match (Text.joinWith ['\n'] (outputs.filter fun t => !t.isBlankText)).strip with
  | [] => none
  | t => some t

namespace Compiler

/-- The command that checks a file. -/
def command (c : Compiler) (file : Text) : List Text := c.program :: "--check" :: file :: c.args

/-- What the file of an invocation holds. -/
def checkedContent (c : Compiler) (tree : FileTree) (file : Text) : Option Content :=
  match tree.read (c.directory.under (.ofText file)) with
  | .ok content => some content
  | .error _ => none

/-- Takes the next reply. -/
def takeReply (bench : Workbench) : Reply × Workbench :=
  match bench.replies with
  | [] => (.silent, bench)
  | reply :: replies => (reply, { bench with replies })

/-- Starts the compiler on a file: keeps the invocation and takes the next reply. -/
def invoke (c : Compiler) (file : Text) : Run Reply :=
  modifyGet fun bench =>
    let invocation : Invocation :=
      { command := c.command file
        timeout := c.timeout
        content := c.checkedContent bench.tree file }
    takeReply { bench with invocations := bench.invocations ++ [invocation] }

/-- Checks a file. -/
def check (c : Compiler) (file : Text) : Run CheckOutput := do
  match ← c.invoke file with
  | .finished exitCode out err => pure { file, exitCode, out, err }
  | .missing => throw (.compilerMissing c.program)
  | .denied => throw (.compilerDenied c.program)
  | .timedOut => throw (.timedOut c.timeout)

end Compiler

end Amend
