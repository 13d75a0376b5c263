import Amend.Text.Basic

/-!
# Values of settings

A setting comes from a file, from the environment or from the command line, and nothing says
beforehand what kind of value it has.  `Value` holds whatever was given; `Settings` decides whether
it will do.
-/

namespace Amend

/-- A value of any kind. -/
inductive Value where
  | null
  | boolean (b : Bool)
  | integer (n : Int)
  | decimal (x : Float)
  | text (t : Text)
  /-- A date, a time of day or both, as written. -/
  | moment (written : Text)
  | list (items : List Value)
  | table (entries : List (Text × Value))
  deriving Inhabited

namespace Value

/-- Does the value hold other values? -/
def isContainer : Value → Bool
  | list _ => true
  | table _ => true
  | _ => false

end Value

end Amend
