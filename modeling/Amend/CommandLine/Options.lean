import Amend.Number.Integer

/-!
# The words of the command line

A command is followed by options and files in any order.  An option is written with two dashes and a
word, or with one dash and a letter; letters may be joined, a value may be attached or
be the next word, and a double dash ends the options.

* `scan` turns the words after the command into options and files.
* `Command.parse?` is the whole command line; nothing means that it is not used as it should be.
-/

namespace Amend.CommandLine

/-- The options that exist. -/
inductive Key where
  | version
  | help
  | fix
  | dryRun
  | compiler
  | compilerArg
  | rounds
  | json
  | verbose
  deriving DecidableEq, Repr, Inhabited

/-- How an option is written, and whether it takes a value. -/
structure Spec where
  key : Key
  long : Text
  short : Option Char := none
  takesValue : Bool := false
  deriving DecidableEq, Repr, Inhabited

/-- A part of the command line that has been understood. -/
inductive Item where
  | flag (key : Key)
  | value (key : Key) (t : Text)
  | word (t : Text)
  deriving DecidableEq, Repr, Inhabited

/-- What one word comes to: items, and possibly an option that waits for its value. -/
structure Reading where
  items : List Item := []
  waiting : Option Key := none
  deriving DecidableEq, Repr, Inhabited

/-- Reads joined letters; the rest of the word is the value of an option that takes one. -/
def readLetters? (specs : List Spec) : Text → Option Reading
  | [] => some {}
  | c :: cs =>
    match specs.find? (·.short == some c) with
    | none => none
    | some spec =>
      if spec.takesValue then
        if cs.isEmpty then some { waiting := some spec.key }
        else some { items := [.value spec.key cs] }
      else (readLetters? specs cs).map fun r => { r with items := .flag spec.key :: r.items }

/-- Reads a long option, with a value after the first equals sign if there is one. -/
def readLong? (specs : List Spec) (arg : Text) : Option Reading :=
  let name := arg.takeWhile (· ≠ '=')
  match specs.find? (·.long == name) with
  | none => none
  | some spec =>
    match arg.dropWhile (· ≠ '='), spec.takesValue with
    | _ :: value, true => some { items := [.value spec.key value] }
    | _ :: _, false => none
    | [], true => some { waiting := some spec.key }
    | [], false => some { items := [.flag spec.key] }

/-- Reads a word that begins with a dash. -/
def readOption? (specs : List Spec) : Text → Option Reading
  | '-' :: '-' :: rest => readLong? specs ('-' :: '-' :: rest)
  | '-' :: letters => readLetters? specs letters
  | _ => none

/-- Is the word an option?  A dash alone is none. -/
def isOption : Text → Bool
  | '-' :: _ :: _ => true
  | _ => false

/-- The word that ends the options. -/
def endOfOptions : Text := "--"

/-- Reads options and words in any order. -/
def scan (specs : List Spec) : List Text → Option (List Item)
  | [] => some []
  | arg :: rest =>
    if arg = endOfOptions then some (rest.map .word)
    else if isOption arg then
      match readOption? specs arg with
      | none => none
      | some r =>
        match r.waiting with
        | none => (scan specs rest).map (r.items ++ ·)
        | some key =>
          match rest with
          | [] => none
          | value :: rest => (scan specs rest).map (r.items ++ .value key value :: ·)
    else (scan specs rest).map (.word arg :: ·)

/-- Reads the options before the command: gives them, and the words from the command on. -/
def scanLeading (specs : List Spec) : List Text → Option (List Item × List Text)
  | [] => some ([], [])
  | arg :: rest =>
    if arg = endOfOptions then some ([], rest)
    else if isOption arg then
      match readOption? specs arg with
      | some { items, waiting := none } =>
        (scanLeading specs rest).map fun (more, rest) => (items ++ more, rest)
      | _ => none
    else some ([], arg :: rest)

/-! ## What the items say -/

/-- Is an option given? -/
def has (items : List Item) (key : Key) : Bool := items.contains (.flag key)

/-- The values of an option, in order. -/
def values (items : List Item) (key : Key) : List Text :=
  items.filterMap fun
    | .value k t => if k = key then some t else none
    | _ => none

/-- The last value of an option. -/
def value? (items : List Item) (key : Key) : Option Text := (values items key).getLast?

/-- The words that are no options. -/
def words (items : List Item) : List Text :=
  items.filterMap fun
    | .word t => some t
    | _ => none

/-! ## Commands -/

/-- What to check, and how. -/
structure CheckOptions where
  files : List Text
  fix : Bool := false
  compiler : Option Text := none
  compilerArgs : List Text := []
  verbose : Bool := false
  deriving DecidableEq, Repr, Inhabited

/-- What to fix, and how. -/
structure FixOptions where
  files : List Text
  dryRun : Bool := false
  compiler : Option Text := none
  compilerArgs : List Text := []
  rounds : Option Int := none
  json : Bool := false
  verbose : Bool := false
  deriving DecidableEq, Repr, Inhabited

/-- What the command line asks for. -/
inductive Command where
  | version
  | help
  | check (o : CheckOptions)
  | fix (o : FixOptions)
  | codes (json : Bool)
  deriving DecidableEq, Repr, Inhabited

/-- The option that asks for help. -/
def helpSpec : Spec := { key := .help, long := "--help" }

/-- The options before the command. -/
def leadingSpecs : List Spec :=
  [{ key := .version, long := "--version", short := some 'V' }, helpSpec]

/-- The options that choose the compiler and its arguments. -/
def compilerSpecs : List Spec :=
  [{ key := .compiler, long := "--moc", takesValue := true },
   { key := .compilerArg, long := "--moc-arg", short := some 'A', takesValue := true }]

/-- The option that asks for more output. -/
def verboseSpec : Spec := { key := .verbose, long := "--verbose", short := some 'v' }

/-- The option that asks for JSON. -/
def jsonSpec : Spec := { key := .json, long := "--json" }

/-- The options of `check`. -/
def checkSpecs : List Spec :=
  compilerSpecs ++ [{ key := .fix, long := "--fix" }, verboseSpec, helpSpec]

/-- The options of `fix`. -/
def fixSpecs : List Spec :=
  compilerSpecs ++
    [{ key := .dryRun, long := "--dry-run", short := some 'n' },
     { key := .rounds, long := "--max-iterations", takesValue := true },
     jsonSpec, verboseSpec, helpSpec]

/-- The options of `codes`. -/
def codesSpecs : List Spec := [jsonSpec, helpSpec]

namespace Command

/-- The command `check`, which needs files. -/
def check? (items : List Item) : Option Command :=
  match words items with
  | [] => none
  | files => some (.check {
      files
      fix := has items .fix
      compiler := value? items .compiler
      compilerArgs := values items .compilerArg
      verbose := has items .verbose })

/-- The limit on rounds, which has to be a whole number if it is given. -/
def rounds? (items : List Item) : Option (Option Int) :=
  match value? items .rounds with
  | none => some none
  | some t => (Integer.read? t).map some

/-- The command `fix`, which needs files. -/
def fix? (items : List Item) : Option Command :=
  match words items, rounds? items with
  | [], _ => none
  | _, none => none
  | files, some rounds => some (.fix {
      files
      dryRun := has items .dryRun
      compiler := value? items .compiler
      compilerArgs := values items .compilerArg
      rounds
      json := has items .json
      verbose := has items .verbose })

/-- The command `codes`, which takes no files. -/
def codes? (items : List Item) : Option Command :=
  match words items with
  | [] => some (.codes (has items .json))
  | _ => none

/-- A command with its words; a request for help comes before all else. -/
def ofWords? (specs : List Spec) (make : List Item → Option Command) (args : List Text) :
    Option Command :=
  (scan specs args).bind fun items => if has items .help then some .help else make items

/-- The command of a name. -/
def ofName? (name : Text) (args : List Text) : Option Command :=
  if name = ("check" : Text) then ofWords? checkSpecs check? args
  else if name = ("fix" : Text) then ofWords? fixSpecs fix? args
  else if name = ("codes" : Text) then ofWords? codesSpecs codes? args
  else none

/-- What an option before the command asks for by itself. -/
def ofLeading? : Item → Option Command
  | .flag .version => some .version
  | .flag .help => some .help
  | _ => none

/-- Reads a command line.  Of several requests before the command the first one counts. -/
def parse? (args : List Text) : Option Command :=
  match scanLeading leadingSpecs args with
  | none => none
  | some (items, rest) =>
    match items.findSome? ofLeading?, rest with
    | some request, _ => some request
    | none, name :: args => ofName? name args
    | none, [] => none

end Command

end Amend.CommandLine
