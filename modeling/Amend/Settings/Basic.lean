import Amend.FileTree
import Amend.RoundLimit
import Amend.Seconds
import Amend.ShellWords
import Amend.Value

/-!
# Settings

Which compiler is run, with which arguments, for how long, and for how many rounds.

A `Layer` is one source of settings: for each setting it holds the value that the source gives, if
it gives one.  Layers are put on top of each other with `Layer.onTopOf`, and `Settings.ofLayer`
checks what comes out.  Values that a higher layer hides are never checked.
-/

namespace Amend

/-- Checked settings. -/
structure Settings where
  compilerPath : Text := "moc"
  /-- The limit on rounds. -/
  rounds : Nat := maxRounds
  compilerArgs : List Text := []
  /-- The time for each check; none means no limit. -/
  timeout : Option Seconds := none
  deriving Inhabited

/-- Why there are no settings. -/
inductive SettingsError where
  | badCompilerPath
  | roundsNoInteger
  | roundsOutOfRange
  | badCompilerArgs
  | timeoutNoNumber
  | timeoutNotPositive
  /-- A setting of that name does not exist. -/
  | unknownField (name : Text)
  /-- The environment gives a number of rounds that is none. -/
  | unreadableRounds (given : Text)
  /-- The environment gives a time that is none. -/
  | unreadableTimeout (given : Text)
  /-- The environment gives arguments that cannot be split into words. -/
  | unreadableArgs (e : ShellWords.ShellError)
  | undecodable (e : Utf8Error)
  /-- A file has a whole number of so many digits. -/
  | longInteger (digits : Nat)
  /-- A file has values too deep inside each other. -/
  | tooDeep
  /-- A file has something else where a table of settings should be. -/
  | notTable
  | file (e : FileError)
  deriving DecidableEq, Repr

namespace SettingsError

/-- The reason in words. -/
def message : SettingsError → Text
  | badCompilerPath => "moc_path must be a non-empty string"
  | roundsNoInteger => "max_iterations must be an integer"
  | roundsOutOfRange => "max_iterations must be between 1 and " ++ Text.ofNat maxRounds
  | badCompilerArgs => "moc_args must be a list of strings"
  | timeoutNoNumber => "timeout must be a number of seconds"
  | timeoutNotPositive => "timeout must be positive"
  | unknownField name => "unexpected setting " ++ name.quoted
  | unreadableRounds given => "MOFIX_MAX_ITERATIONS must be an integer, got " ++ given.quoted
  | unreadableTimeout given => "MOFIX_TIMEOUT must be a number, got " ++ given.quoted
  | unreadableArgs e => e.message
  | undecodable e => e.message
  | longInteger digits =>
    "Exceeds the limit (4300 digits) for integer string conversion: value has " ++
      Text.ofNat digits ++ " digits; use sys.set_int_max_str_digits() to increase the limit"
  | tooDeep => "settings are nested too deeply"
  | notTable => "settings are no table"
  | file e => e.message

/-- Is the reason a bad value, which the user is told about in one line? -/
def isBadValue : SettingsError → Bool
  | unknownField _ => false
  | tooDeep => false
  | notTable => false
  | file _ => false
  | _ => true

end SettingsError

/-- What one source says about each setting. -/
structure Layer where
  compilerPath : Option Value := none
  rounds : Option Value := none
  compilerArgs : Option Value := none
  timeout : Option Value := none
  deriving Inhabited

namespace Layer

/-- The source that says nothing. -/
def empty : Layer := {}

/-- The layer with one setting given; the name of a setting that does not exist changes nothing. -/
def set (layer : Layer) (name : Text) (v : Value) : Layer :=
  if name = ("moc_path" : Text) then { layer with compilerPath := some v }
  else if name = ("max_iterations" : Text) then { layer with rounds := some v }
  else if name = ("moc_args" : Text) then { layer with compilerArgs := some v }
  else if name = ("timeout" : Text) then { layer with timeout := some v }
  else layer

/-- The names of all settings. -/
def names : List Text := ["moc_path", "max_iterations", "moc_args", "timeout"]

/-- The layer of named values; values under other names do not matter. -/
def ofEntries (entries : List (Text × Value)) : Layer :=
  entries.foldl (fun layer e => layer.set e.1 e.2) empty

/-- A value unless it is null. -/
def given : Option Value → Option Value
  | some .null => none
  | v => v

/-- The layer in which a null counts as nothing said. -/
def dropNulls (layer : Layer) : Layer where
  compilerPath := given layer.compilerPath
  rounds := given layer.rounds
  compilerArgs := given layer.compilerArgs
  timeout := given layer.timeout

/-- One layer on top of another: of each setting the upper value counts if there is one. -/
def onTopOf (upper lower : Layer) : Layer where
  compilerPath := upper.compilerPath <|> lower.compilerPath
  rounds := upper.rounds <|> lower.rounds
  compilerArgs := upper.compilerArgs <|> lower.compilerArgs
  timeout := upper.timeout <|> lower.timeout

end Layer

namespace Settings

/-- The settings when no source says anything. -/
def standard : Settings := {}

/-- Checks the path of the compiler. -/
def checkPath : Value → Except SettingsError Text
  | .text (c :: cs) => .ok (c :: cs)
  | _ => .error .badCompilerPath

/-- Checks the limit on rounds. -/
def checkRounds : Value → Except SettingsError Nat
  | .integer n => if 1 ≤ n && n ≤ maxRounds then .ok n.toNat else .error .roundsOutOfRange
  | _ => .error .roundsNoInteger

/-- The text of a value that is one. -/
def asText : Value → Except SettingsError Text
  | .text t => .ok t
  | _ => .error .badCompilerArgs

/-- Checks the arguments of the compiler. -/
def checkArgs : Value → Except SettingsError (List Text)
  | .list items => items.mapM asText
  | _ => .error .badCompilerArgs

/-- Checks that a time is positive. -/
def positive (s : Seconds) : Except SettingsError (Option Seconds) :=
  if s.isPositive then .ok (some s) else .error .timeoutNotPositive

/-- Checks the time for each check; null means no limit. -/
def checkTimeout : Value → Except SettingsError (Option Seconds)
  | .null => .ok none
  | .integer n => positive (.whole n)
  | .decimal x => positive (.fraction x)
  | _ => .error .timeoutNoNumber

/-- A setting: the checked value if one is given, else the standard one. -/
def pick {α : Type} (check : Value → Except SettingsError α) (standard : α) :
    Option Value → Except SettingsError α
  | none => .ok standard
  | some v => check v

/-- Checks the settings of a layer, in a fixed order. -/
def ofLayer (layer : Layer) : Except SettingsError Settings := do
  let compilerPath ← pick checkPath standard.compilerPath layer.compilerPath
  let rounds ← pick checkRounds standard.rounds layer.rounds
  let compilerArgs ← pick checkArgs standard.compilerArgs layer.compilerArgs
  let timeout ← pick checkTimeout standard.timeout layer.timeout
  .ok { compilerPath, rounds, compilerArgs, timeout }

/-- Checks named values, all of which have to be settings. -/
def ofFields (fields : List (Text × Value)) : Except SettingsError Settings :=
  match fields.find? fun e => !Layer.names.contains e.1 with
  | some (name, _) => .error (.unknownField name)
  | none => ofLayer (.ofEntries fields)

end Settings

end Amend
