import Amend.Counts
import Amend.Source.Position
import Amend.Text.Quoted

/-!
# Notices

What a run has to say about its own progress.  Each notice is a cause; its level and its wording are
functions of it.  Warnings are always shown, the rest only on request.
-/

namespace Amend

/-- How important a notice is. -/
inductive Level where
  | debug
  | warning
  deriving DecidableEq, Repr, Inhabited

/-- The name of a level. -/
def Level.name : Level → Text
  | .debug => "DEBUG"
  | .warning => "WARNING"

/-- Something that happened during a run. -/
inductive Notice where
  /-- A fix was skipped because it overlaps one already applied. -/
  | overlap (code : Text) (start : Position)
  /-- The compiler reported on a file that was not supplied. -/
  | unknownFile (file : Text)
  /-- A code is reported more or less often than the last fixes account for. -/
  | mismatch (code : Text) (actual initial fixed : Int)
  /-- The compiler had nothing to report. -/
  | clean (rounds : Nat)
  /-- No diagnostic of a round could be fixed. -/
  | nothingApplies (round : Nat)
  /-- A round changed files. -/
  | roundFixed (round files : Nat) (counts : List (Text × Int))
  deriving DecidableEq, Repr

namespace Notice

/-- The level of a notice. -/
def level : Notice → Level
  | mismatch .. => .warning
  | _ => .debug

/-- The counts of a round, in order, between braces. -/
def describeCounts (counts : List (Text × Int)) : Text :=
  let entry := fun (e : Text × Int) => e.1.quoted ++ ": " ++ Text.ofInt e.2
  "\x7b" ++ Text.joinWith ", " (counts.map entry) ++ "\x7d"

/-- The notice in words. -/
def message : Notice → Text
  | overlap code start =>
    "Skipping " ++ code ++ " fix at " ++ Text.ofInt (start.line + 1) ++ ":" ++
      Text.ofInt (start.character + 1) ++ ", overlaps an applied fix"
  | unknownFile file => "Ignoring diagnostics for unknown file " ++ file
  | mismatch code actual initial fixed =>
    "Incorrect error count for fix code " ++ code ++ ": " ++ Text.ofInt actual ++ " != " ++
      Text.ofInt initial ++ " - " ++ Text.ofInt fixed
  | clean rounds =>
    "No diagnostics reported, stopping after " ++ Text.ofNat rounds ++ " round(s)"
  | nothingApplies round => "No applicable fixes in round " ++ Text.ofNat round
  | roundFixed round files counts =>
    "Round " ++ Text.ofNat round ++ " fixed " ++ Text.ofNat files ++ " file(s): " ++
      describeCounts counts

end Notice

end Amend
