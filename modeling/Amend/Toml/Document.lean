import Amend.Value

/-!
# Building a TOML document

A document is built up statement by statement.  Beside the entries, marks remember how the tables
came about, because that decides what later statements may do with them:

* what was written in place, between brackets or braces, is frozen with all that is in it;
* a table that has been declared by a header cannot be declared again;
* a table that came about through a dotted key is open to further keys of the same section and
  closed to all others.

An array of tables is reached through its last member; a new member starts without marks.
-/

namespace Amend.Toml

/-- The entries of a table. -/
abbrev Entries := List (Text × Value)

/-- How a table came about. -/
inductive Mark where
  | frozen
  | declared
  /-- By a dotted key of the given section. -/
  | dotted (section_ : Nat)
  deriving DecidableEq, Repr

namespace Entries

/-- The value of a key. -/
def get? (es : Entries) (key : Text) : Option Value := List.lookup key es

/-- Gives a key that occurs another value. -/
def set (es : Entries) (key : Text) (v : Value) : Entries :=
  es.map fun e => if e.1 = key then (key, v) else e

/-- Changes the table at a path, which is created if it is missing. -/
def update (f : Entries → Option Entries) : (path : List Text) → Entries → Option Entries
  | [], es => f es
  | key :: path, es =>
    match es.get? key with
    | none => (update f path []).map fun inner => es ++ [(key, .table inner)]
    | some (.table inner) => (update f path inner).map fun inner => es.set key (.table inner)
    | some (.list items) =>
      match items.getLast? with
      | some (.table inner) =>
        (update f path inner).map fun inner =>
          es.set key (.list (items.dropLast ++ [.table inner]))
      | _ => none
    | some _ => none

/-- Adds a key that does not occur. -/
def add? (es : Entries) (key : Text) (v : Value) : Option Entries :=
  if (es.get? key).isSome then none else some (es ++ [(key, v)])

/-- Adds an empty table to the array at a key, which is created if it is missing. -/
def addMember? (es : Entries) (key : Text) : Option Entries :=
  match es.get? key with
  | none => some (es ++ [(key, .list [.table []])])
  | some (.list items) => some (es.set key (.list (items ++ [.table []])))
  | some _ => none

end Entries

/-- A document under construction. -/
structure Document where
  entries : Entries := []
  marks : List (List Text × Mark) := []
  /-- How many headers there have been. -/
  sectionCount : Nat := 0
  /-- The table that the current section belongs to. -/
  header : List Text := []
  deriving Inhabited

namespace Document

/-- The document before any statement. -/
def empty : Document := {}

/-- Marks a path. -/
def mark (d : Document) (path : List Text) (m : Mark) : Document :=
  { d with marks := (path, m) :: d.marks }

/-- Was the path, or a path above it, written in place? -/
def isFrozen (d : Document) (path : List Text) : Bool :=
  d.marks.any fun (p, m) => m == .frozen && p.isPrefixOf path

/-- Is the table at the path closed to headers and dotted keys? -/
def isClosed (d : Document) (path : List Text) : Bool :=
  d.marks.any fun (p, m) =>
    p == path &&
      match m with
      | .frozen => false
      | .declared => true
      | .dotted n => decide (n < d.sectionCount)

/-- Opens the section of a table. -/
def declareTable? (d : Document) (path : List Text) : Option Document :=
  let d := { d with sectionCount := d.sectionCount + 1 }
  if d.isClosed path || d.isFrozen path then none
  else
    (d.entries.update some path).map fun entries =>
      { d.mark path .declared with entries, header := path }

/-- Opens the section of a new member of an array of tables. -/
def declareMember? (d : Document) (path : List Text) : Option Document :=
  let d := { d with sectionCount := d.sectionCount + 1 }
  match path.getLast? with
  | none => none
  | some key =>
    if d.isFrozen path then none
    else
      let d := { d with marks := d.marks.filter fun (p, _) => !path.isPrefixOf p }
      (d.entries.update (·.addMember? key) path.dropLast).map fun entries =>
        { d.mark path .declared with entries, header := path }

/-- Marks the tables that a dotted key goes through, unless one of them is closed. -/
def markDotted? (d : Document) (base : List Text) : (rest : List Text) → Option Document
  | [] => some d
  | [_] => some d
  | key :: rest =>
    let path := base ++ [key]
    if d.isClosed path then none else (d.mark path (.dotted d.sectionCount)).markDotted? path rest

/-- Adds a value under a key of the current section. -/
def assign? (d : Document) (key : List Text) (v : Value) : Option Document :=
  match key.getLast? with
  | none => none
  | some last =>
    (d.markDotted? d.header key).bind fun d =>
      let parent := d.header ++ key.dropLast
      if d.isFrozen parent then none
      else
        (d.entries.update (·.add? last v) parent).map fun entries =>
          let d := if v.isContainer then d.mark (d.header ++ key) .frozen else d
          { d with entries }

/-- Adds a value under a key of a table that is written in place. -/
def assignInline? (d : Document) (key : List Text) (v : Value) : Option Document :=
  match key.getLast? with
  | none => none
  | some last =>
    if d.isFrozen key then none
    else
      (d.entries.update (·.add? last v) key.dropLast).map fun entries =>
        let d := if v.isContainer then d.mark key .frozen else d
        { d with entries }

end Document

end Amend.Toml
