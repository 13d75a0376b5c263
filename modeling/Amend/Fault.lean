import Amend.Settings.Basic

/-!
# Failures of a run

Each failure is a cause with what is needed to speak about it; `Fault.message` has the words.
-/

namespace Amend

/-- Why a run fails. -/
inductive Fault where
  | file (e : FileError)
  | undecodable (e : Utf8Error)
  /-- The path has no last component that could be changed. -/
  | emptyName (path : Text)
  /-- All names that were tried for the shadow of the file are taken. -/
  | noFreeName (path : Text)
  | compilerMissing (program : Text)
  | compilerDenied (program : Text)
  | timedOut (limit : Option Seconds)
  | roundLimit
  | settings (e : SettingsError)

namespace Fault

/-- The failure in words. -/
def message : Fault → Text
  | file e => e.message
  | undecodable e => e.message
  | emptyName path => path.quoted ++ " has an empty name"
  | noFreeName path => path.quoted ++ " has no free name next to it"
  | compilerMissing program =>
    "Motoko compiler not found: " ++ program ++ ". Set moc_path in .mofixrc or MOFIX_MOC_PATH."
  | compilerDenied program => systemMessage 13 "Permission denied" program
  | timedOut limit => "Compiler timed out after " ++ Seconds.describeLimit limit ++ "s"
  | roundLimit => "max_iterations must be at least 1"
  | settings e => e.message

end Fault

end Amend
