import Amend.Number.Decimal
import Amend.Settings.Basic
import Amend.Toml.Parser

/-!
# Where settings come from

In rising precedence: the table `tool.mofix` of the nearest `pyproject.toml`, the nearest
`.mofixrc`, the environment, and what the caller asks for.  The nearest file is the one in the
starting directory or in the closest directory above it that has one.

A file that is no TOML says nothing.  A file that is no text, that is nested too deeply, or whose
tables are none, is an error, and so is a variable that cannot be read.
-/

namespace Amend

/-- The variables of the environment. -/
abbrev Environment := List (Text × Text)

namespace Settings

/-- The name of the file of settings. -/
def ownFile : Text := ".mofixrc"

/-- The name of the file in which settings are one table among others. -/
def projectFile : Text := "pyproject.toml"

/-- The first of several paths that names a file. -/
def firstFile? (tree : FileTree) : List Path → Except SettingsError (Option Path)
  | [] => .ok none
  | p :: ps =>
    match tree.isFile p with
    | .error e => .error (.file e)
    | .ok true => .ok (some p)
    | .ok false => firstFile? tree ps

/-- The file of the given name in a directory or in the closest directory above it. -/
def nearest? (tree : FileTree) (name : Text) (start : Path) : Except SettingsError (Option Path) :=
  if start.hasNull then .error (.file ⟨.nullInName, start.toText⟩)
  else firstFile? tree (start.collapse.ancestors.map fun dir => dir.under (.ofText name))

/-- The entries of a TOML file; a file that is none has no entries. -/
def readToml (tree : FileTree) (p : Path) : Except SettingsError Toml.Entries :=
  match tree.read p with
  | .error _ => .ok []
  | .ok content =>
    match content.toText with
    | .error e => .error (.undecodable e)
    | .ok t =>
      match Toml.parse t with
      | .ok entries => .ok entries
      | .error .malformed => .ok []
      | .error (.longInteger digits) => .error (.longInteger digits)
      | .error .tooDeep => .error .tooDeep

/-- The table under a key; a missing one is empty. -/
def tableAt (entries : Toml.Entries) (key : Text) : Except SettingsError Toml.Entries :=
  match entries.get? key with
  | none => .ok []
  | some (.table inner) => .ok inner
  | some _ => .error .notTable

/-- What the nearest `pyproject.toml` says. -/
def projectLayer (tree : FileTree) (start : Path) : Except SettingsError Layer := do
  match ← nearest? tree projectFile start with
  | none => .ok .empty
  | some p => do
    let entries ← readToml tree p
    let tool ← tableAt entries "tool"
    let own ← tableAt tool "mofix"
    .ok (.ofEntries own)

/-- What the nearest `.mofixrc` says. -/
def ownLayer (tree : FileTree) (start : Path) : Except SettingsError Layer := do
  match ← nearest? tree ownFile start with
  | none => .ok .empty
  | some p => do
    let entries ← readToml tree p
    .ok (.ofEntries entries)

/-- A variable, read in its own way. -/
def fromVariable (env : Environment) (name : Text) (read : Text → Except SettingsError Value) :
    Except SettingsError (Option Value) :=
  match env.lookup name with
  | none => .ok none
  | some t => (read t).map some

/-- Reads the limit on rounds. -/
def readRounds (t : Text) : Except SettingsError Value :=
  match Integer.read? t with
  | some n => .ok (.integer n)
  | none => .error (.unreadableRounds t)

/-- Reads the arguments of the compiler. -/
def readArgs (t : Text) : Except SettingsError Value :=
  match ShellWords.split t with
  | .ok words => .ok (.list (words.map .text))
  | .error e => .error (.unreadableArgs e)

/-- Reads the time for each check. -/
def readTimeout (t : Text) : Except SettingsError Value :=
  match Decimal.read? t with
  | some x => .ok (.decimal x)
  | none => .error (.unreadableTimeout t)

/-- What the environment says. -/
def environmentLayer (env : Environment) : Except SettingsError Layer := do
  let compilerPath ← fromVariable env "MOFIX_MOC_PATH" fun t => .ok (.text t)
  let rounds ← fromVariable env "MOFIX_MAX_ITERATIONS" readRounds
  let compilerArgs ← fromVariable env "MOFIX_MOC_ARGS" readArgs
  let timeout ← fromVariable env "MOFIX_TIMEOUT" readTimeout
  .ok { compilerPath, rounds, compilerArgs, timeout }

/-- The settings from all sources. -/
def load (tree : FileTree) (start : Path) (env : Environment) (asked : Layer) :
    Except SettingsError Settings := do
  let project ← projectLayer tree start
  let own ← ownLayer tree start
  let environment ← environmentLayer env
  ofLayer (asked.dropNulls.onTopOf (environment.onTopOf (own.onTopOf project)))

/-- The settings from all sources, with further arguments for the compiler after those that are
set. -/
def loadWithArgs (tree : FileTree) (start : Path) (env : Environment) (asked : Layer)
    (moreArgs : List Text) : Except SettingsError Settings :=
  (load tree start env asked).map fun s =>
    { s with compilerArgs := s.compilerArgs ++ moreArgs }

end Settings

end Amend
