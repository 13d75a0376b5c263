import Amend.Autofix
import Amend.CommandLine.Options
import Amend.Console
import Amend.Diff.Unified
import Amend.Json
import Amend.Settings.Load
import Amend.Shadow

/-!
# The commands

`check` runs the compiler on files, with fixes first if asked; `fix` repairs files, or shows what
it would do; `codes` lists what can be repaired.  A command gives an exit code: zero for success,
one if the user has something to put right, two if the compiler or the file system failed.

`runFixing` is the part that both share: the rounds, with the compiler looking at shadows.
-/

namespace Amend.CommandLine

/-- Where a command is given. -/
structure Site where
  /-- The directory that relative paths start from. -/
  directory : Path
  environment : Environment
  deriving Inhabited

/-- The version of the tool. -/
def versionText : Text := "0.1.0"

/-- Exit code for what the user has to put right. -/
def userError : Nat := 1

/-- Exit code for what the system failed at. -/
def systemError : Nat := 2

/-! ## Printing -/

/-- Prints a line. -/
def print (t : Text) : Run Unit := Run.emit (.out (Console.line t))

/-- Prints a line that has markup. -/
def printStyled (t : Text) : Run Unit := Run.emit (.out (Console.styledLine t))

/-- Prints a line among the errors. -/
def printErr (t : Text) : Run Unit := Run.emit (.err (Console.line t))

/-- Prints JSON. -/
def printJson (j : Json) : Run Unit := Run.emit (.out (j.pretty 0 ++ ['\n']))

/-- Announces an error. -/
def announce (t : Text) : Run Unit := Run.emit (.err ("Error: " ++ Console.plain t ++ "\n"))

/-- Announces a warning. -/
def warn (t : Text) : Run Unit := Run.emit (.err ("Warning: " ++ Console.plain t ++ "\n"))

/-- Announces the failures that a user can expect, with the exit code of the system's; others go
on. -/
def reportFault (fault : Fault) : Run Nat := do
  match fault with
  | .compilerMissing _ => announce fault.message
  | .timedOut _ => announce fault.message
  | .compilerDenied _ => announce ("I/O error: " ++ fault.message)
  | .file e =>
    if e.cause = .nullInName then throw fault else announce ("I/O error: " ++ fault.message)
  | _ => throw fault
  pure systemError

/-- Does something that may fail: gives its result, or the exit code of a failure that has been
announced. -/
def attempt {α : Type} (run : Run α) : Run (Except Nat α) :=
  tryCatch (Except.ok <$> run) fun fault => Except.error <$> reportFault fault

/-! ## Before a command -/

/-- A list of texts, one a line. -/
def bulletList (ts : List Text) : Text :=
  Text.joinWith ['\n'] (ts.map fun t => ("  - " : Text) ++ t)

/-- The paths that name no file. -/
def missingFiles (directory : Path) (files : List Text) : Run (List Text) :=
  files.filterM fun file => do
    let found ← Run.isFile (directory.under (.ofText file))
    pure !found

/-- Are there files, and do all of them exist?  Says so if not. -/
def requireFiles (directory : Path) (files : List Text) : Run Bool := do
  if files.isEmpty then
    announce "No Motoko files specified for checking"
    pure false
  else
    match ← missingFiles directory files with
    | [] => pure true
    | missing => do
      announce ("Source file(s) not found in " ++ directory.toText ++ ":\n" ++ bulletList missing)
      pure false

/-- The settings, if they are in order.  Says so if not. -/
def requireSettings (site : Site) (asked : Layer) (moreArgs : List Text) :
    Run (Option Settings) := do
  let tree := (← get).tree
  match Settings.loadWithArgs tree site.directory site.environment asked moreArgs with
  | .ok settings => pure (some settings)
  | .error e =>
    if e.isBadValue then
      announce ("Invalid configuration: " ++ e.message)
      pure none
    else throw (.settings e)

/-- The compiler that the settings describe. -/
def compilerOf (site : Site) (settings : Settings) : Compiler where
  program := settings.compilerPath
  args := settings.compilerArgs
  timeout := settings.timeout
  directory := site.directory

/-! ## Fixing -/

/-- The rounds with files of the tree, the compiler looking at shadows. -/
def hostOf (compiler : Compiler) (directory : Path) (verbose : Bool) : Host Run where
  read := fun file => Run.readText (directory.under (.ofText file))
  write := fun file text => Run.writeText (directory.under (.ofText file)) text
  diagnose := fun files => compiler.diagnose files
  onRound := fun files => Shadow.stage directory files.entries
  note := fun n => if verbose || n.level == .warning then Run.note n else pure ()

/-- Fixes files in rounds.  The shadows are removed in the end, whatever happens. -/
def runFixing (compiler : Compiler) (directory : Path) (files : List Text) (rounds : Nat)
    (verbose write : Bool) : Run (Option Summary) :=
  Run.andFinally
    (autofix (hostOf compiler directory verbose) .standard files rounds write)
    (Shadow.cleanup directory)

/-- Prints what was fixed. -/
def printSummary (s : Summary) : Run Unit := do
  print ("✓ Fixed " ++ Text.ofNat s.files.size ++ " file(s) with the following fixes:")
  s.counts.sorted.forM fun (code, n) =>
    print ("  " ++ code ++ ": " ++ Text.ofInt n ++ " fix(es)")

/-- What was fixed, as JSON. -/
def summaryFields : Option Summary → List (Text × Json)
  | none => [("fixed_count", .number 0), ("fixed_files", .array []),
      ("fixed_error_counts", .object [])]
  | some s =>
    [("fixed_count", .number s.files.size),
     ("fixed_files", .array ((Text.sort s.files.keys).map .string)),
     ("fixed_error_counts", .object (s.counts.sorted.map fun (code, n) => (code, .number n))),
     ("iterations", .number s.rounds),
     ("warnings", .array (s.warnings.map .string))]

/-- Prints the differences that fixes would make to a file. -/
def printDiff (directory : Path) (file newText : Text) : Run Unit := do
  let oldText ← Run.readText (directory.under (.ofText file))
  print (Diff.unified file oldText newText)

/-- Prints the outcome of `fix`. -/
def reportFix (directory : Path) (o : FixOptions) (summary : Option Summary) : Run Unit :=
  if o.json then
    let mode : Text × Json := ("mode", .string (if o.dryRun then "dry_run" else "fix"))
    printJson (.object (summaryFields summary ++ [mode]))
  else
    match summary with
    | none => print "No fixes needed."
    | some s => do
      if o.dryRun then
        warn "Dry run - no files were written"
        (stableSort (fun a b => Text.le a.1 b.1) s.files.entries).forM fun (file, text) =>
          printDiff directory file text
      printSummary s

/-- A value that may be missing. -/
def asked {α : Type} (make : α → Value) (given : Option α) : Option Value := given.map make

/-- The command `fix`. -/
def runFix (site : Site) (o : FixOptions) : Run Nat := do
  if ← requireFiles site.directory o.files then
    let layer : Layer :=
      { compilerPath := asked .text o.compiler, rounds := asked .integer o.rounds }
    match ← requireSettings site layer o.compilerArgs with
    | none => pure userError
    | some settings => do
      let compiler := compilerOf site settings
      match ← attempt
          (runFixing compiler site.directory o.files settings.rounds o.verbose !o.dryRun) with
      | .error code => pure code
      | .ok summary => do
        reportFix site.directory o summary
        pure 0
  else pure userError

/-! ## Checking -/

/-- Shows what a failed check printed. -/
def showFailure (output : CheckOutput) : Run Unit := do
  if !output.err.isEmpty then printErr output.err
  if !output.out.isBlankText then printErr output.out
  announce ("✗ Check failed for file " ++ output.file ++ " (exit code: " ++
    Text.ofInt output.exitCode ++ ")")

/-- Shows what a successful check printed. -/
def showOutput (output : CheckOutput) : Run Unit := do
  if !output.err.isBlankText then printErr output.err
  if !output.out.isBlankText then print output.out

/-- Checks files up to the first that fails. -/
def checkEach (compiler : Compiler) (verbose : Bool) : List Text → Run Nat
  | [] => pure 0
  | file :: files => do
    if verbose then
      print "check Running moc:"
      print (Json.textsInAscii (compiler.command file))
    let output ← compiler.check file
    if output.ok then
      if verbose then showOutput output
      printStyled ("[green]✓ " ++ file ++ "[/green]")
      checkEach compiler verbose files
    else
      showFailure output
      pure userError

/-- Fixes before checking. -/
def fixFirst (compiler : Compiler) (site : Site) (settings : Settings) (o : CheckOptions) :
    Run Unit := do
  if o.verbose then print "check Attempting to fix files"
  match ← runFixing compiler site.directory o.files settings.rounds o.verbose true with
  | some summary => printSummary summary
  | none => if o.verbose then print "No fixes were needed"

/-- The command `check`. -/
def runCheck (site : Site) (o : CheckOptions) : Run Nat := do
  if ← requireFiles site.directory o.files then
    match ← requireSettings site { compilerPath := asked .text o.compiler } o.compilerArgs with
    | none => pure userError
    | some settings => do
      let compiler := compilerOf site settings
      let body : Run Nat := do
        if o.fix then fixFirst compiler site settings o
        checkEach compiler o.verbose o.files
      match ← attempt body with
      | .ok code => pure code
      | .error code => pure code
  else pure userError

/-! ## Listing -/

/-- A rule as JSON. -/
def ruleJson (r : Rule) : Json :=
  let phase : Json :=
    match r.phase with
    | .number n => .number n
    | .word t => .string t
  .object [("code", .string r.code), ("phase", phase), ("description", .string r.description)]

/-- The command `codes`. -/
def runCodes (json : Bool) : Run Nat := do
  let rules := Registry.standard.list
  if json then printJson (.array (rules.map ruleJson))
  else
    Run.emit (.out (Console.table "Fixable diagnostics"
      [{ heading := "Code" }, { heading := "Phase", align := .right }, { heading := "Fix" }]
      (rules.map fun r => [r.code, r.phase.describe, r.description])))
  pure 0

/-! ## The whole -/

/-- How the tool is used. -/
def usageText : Text := "Usage: mofix [--version] (check | fix | codes) [options] [files]\n"

/-- Does what the command line asks for. -/
def runCommand (site : Site) : Command → Run Nat
  | .version => do
    Run.emit (.out ("mofix version " ++ versionText ++ "\n"))
    pure 0
  | .help => do
    Run.emit (.out usageText)
    pure 0
  | .check o => runCheck site o
  | .fix o => runFix site o
  | .codes json => runCodes json

/-- What a command line comes to. -/
inductive Outcome where
  | exit (code : Nat)
  /-- The command line is not used as it should be. -/
  | usage
  /-- A failure that nobody expects. -/
  | fault (f : Fault)

/-- Runs a command line on a workbench. -/
def run (site : Site) (args : List Text) (bench : Workbench) : Outcome × Workbench :=
  match Command.parse? args with
  | none => (.usage, bench)
  | some command =>
    match (runCommand site command).on bench with
    | (.ok code, bench) => (.exit code, bench)
    | (.error f, bench) => (.fault f, bench)

/-- What has been printed to the standard output. -/
def standardOutput (bench : Workbench) : Text :=
  bench.transcript.flatMap fun
    | .out t => t
    | _ => []

/-- What has been printed among the errors. -/
def standardError (bench : Workbench) : Text :=
  bench.transcript.flatMap fun
    | .err t => t
    | .note n => Console.noticeLine n
    | .out _ => []

end Amend.CommandLine
