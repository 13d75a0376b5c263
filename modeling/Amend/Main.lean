import Amend.CommandLine.Commands

/-!
# The command-line tool

The outer layer: it reads files, shows what is printed, and writes what has changed.  Everything
else is `CommandLine.run`, a function of the file tree and the compiler's replies.

The tool starts no programs.  When a check is due it puts the text to be checked in place, prints
the command, and reads the reply from its standard input: a line with the exit code, or one of the
words `missing`, `denied` and `timeout`; then the lines that the compiler printed, up to a line
with a single dot.  The function is then run again with one more known reply, until it needs no
further one.
-/

namespace Amend.Main

/-- The absolute path of a location. -/
def pathOf (loc : Location) : String := Text.toString ('/' :: Text.joinWith ['/'] loc)

/-- The content of a file, if there is one at the path. -/
def read? (path : String) : IO (Option Content) := do
  try
    let octets ← IO.FS.readBinFile path
    pure (some (.ofOctets octets.toList))
  catch _ => pure none

/-- Adds the file at a path to the tree, if there is one. -/
def load (tree : FileTree) (p : Path) : IO FileTree := do
  let loc := p.collapse.parts
  match ← read? (pathOf loc) with
  | some content => pure (tree.place loc (.file content))
  | none => pure tree

/-- The words of the command line that may name files. -/
def fileWords : CommandLine.Command → List Text
  | .check o => o.files
  | .fix o => o.files
  | _ => []

/-- The paths that a command may look at: its files, their shadows and the files of settings. -/
def pathsFor (directory : Path) (files : List Text) : List Path :=
  let named := files.map fun f => directory.under (.ofText f)
  let shadows := named.flatMap fun p =>
    (List.range (maxRounds + 1)).filterMap fun n => Shadow.pathWith? (Shadow.labelAt n) p
  let settings := directory.ancestors.flatMap fun dir =>
    [dir.under (.ofText Settings.ownFile), dir.under (.ofText Settings.projectFile)]
  named ++ shadows ++ settings

/-- Puts a content in place of a file. -/
def store (path : String) (content : Content) : IO Unit :=
  match content with
  | .text t => IO.FS.writeFile path t.toString
  | .binary octets => IO.FS.writeBinFile path ⟨octets.toArray⟩

/-- Makes the files of the disk those of a tree, where they differ from what they were. -/
def sync (before after : FileTree) : IO Unit := do
  for (loc, entry) in after.entries.entries do
    match entry with
    | .file content =>
      if before.entry? loc != some entry then store (pathOf loc) content
    | .directory => pure ()
  for loc in before.entries.keys do
    if (after.entry? loc).isNone then IO.FS.removeFile (pathOf loc)

/-- Reads lines up to a single dot or the end of the input. -/
partial def readLines (input : IO.FS.Stream) (done : String) : IO String := do
  let line ← input.getLine
  if line.isEmpty || line == ".\n" then pure done else readLines input (done ++ line)

/-- Asks for the reply to an invocation. -/
def ask (invocation : Invocation) : IO Reply := do
  IO.eprintln (Json.textsInAscii invocation.command).toString
  let input ← IO.getStdin
  let status := (← input.getLine).toList
  let output ← readLines input ""
  match (Text.strip status).toString with
  | "missing" => pure .missing
  | "denied" => pure .denied
  | "timeout" => pure .timedOut
  | word => pure (.finished ((Integer.read? word.toList).getD 1) [] output.toList)

/-- Where the file that an invocation checks is. -/
def checkedLocation (site : CommandLine.Site) (invocation : Invocation) : Option Location :=
  (invocation.command[2]?).map fun file => (site.directory.under (.ofText file)).collapse.parts

/-- Answers an invocation, with the text to be checked in place for as long as that takes. -/
def answer (site : CommandLine.Site) (tree : FileTree) (invocation : Invocation) : IO Reply := do
  match checkedLocation site invocation, invocation.content with
  | some loc, some content =>
    let staged : FileTree := ⟨tree.entries.insert loc (.file content)⟩
    sync tree staged
    let reply ← ask invocation
    sync staged tree
    pure reply
  | _, _ => ask invocation

/-- Runs the command line with more and more known replies. -/
partial def settle (site : CommandLine.Site) (args : List Text) (tree : FileTree)
    (replies : List Reply) : IO (CommandLine.Outcome × Workbench) := do
  let (outcome, bench) := CommandLine.run site args { tree, replies }
  match bench.invocations[replies.length]? with
  | none => pure (outcome, bench)
  | some invocation => do
    let reply ← answer site tree invocation
    settle site args tree (replies ++ [reply])

/-- The variables that the settings are read from. -/
def environment : IO Environment := do
  let names := ["MOFIX_MOC_PATH", "MOFIX_MAX_ITERATIONS", "MOFIX_MOC_ARGS", "MOFIX_TIMEOUT"]
  names.filterMapM fun name => do
    let value ← IO.getEnv name
    pure (value.map fun v => (name.toList, v.toList))

/-- Prints the outcome and gives the exit code. -/
def conclude (outcome : CommandLine.Outcome) (bench : Workbench) : IO UInt32 := do
  IO.print (CommandLine.standardOutput bench).toString
  IO.eprint (CommandLine.standardError bench).toString
  match outcome with
  | .exit code => pure (UInt32.ofNat code)
  | .usage => do
    IO.eprint CommandLine.usageText.toString
    pure 2
  | .fault f => do
    IO.eprintln f.message.toString
    pure 1

end Amend.Main

open Amend in
/-- Runs the tool. -/
def main (args : List String) : IO UInt32 := do
  let directory := Path.ofText (← IO.currentDir).toString.toList
  let site : CommandLine.Site := ⟨directory, ← Main.environment⟩
  let args := args.map String.toList
  let files := ((CommandLine.Command.parse? args).map Main.fileWords).getD []
  let start := FileTree.empty.makeDirectory directory.parts
  let tree ← (Main.pathsFor directory files).foldlM Main.load start
  let (outcome, bench) ← Main.settle site args tree []
  Main.sync tree bench.tree
  Main.conclude outcome bench
