import Amend.Counts
import Amend.Source.Position

/-!
# Diagnostics

What a compiler reports about one place of one file, and the two summaries that a fix pass starts
from: how many diagnostics there are of each code, and which of them belong to which file.
-/

namespace Amend

/-- How serious a diagnostic is. -/
inductive Severity where
  | error
  | warning
  deriving DecidableEq, Repr, Inhabited

/-- One report of the compiler. -/
structure Diagnostic where
  /-- The file, as the compiler spells it. -/
  file : Text
  range : Range
  /-- The kind of diagnostic, such as `M0223`. -/
  code : Text
  message : Text
  severity : Severity := .warning
  deriving DecidableEq, Repr, Inhabited

namespace Diagnostic

/-- The same diagnostic at another range. -/
def withRange (d : Diagnostic) (range : Range) : Diagnostic := { d with range }

/-- The number of diagnostics of each code, in order of first appearance. -/
def countByCode (ds : List Diagnostic) : Counts :=
  Counts.tally Table.empty (ds.map Diagnostic.code)

/-- The reported files in order of first appearance, each with its diagnostics in order. -/
def groupByFile (ds : List Diagnostic) : Table Text (List Diagnostic) :=
  ds.foldl (fun groups d => groups.insert d.file (((groups.get? d.file).getD []) ++ [d]))
    Table.empty

end Diagnostic

end Amend
