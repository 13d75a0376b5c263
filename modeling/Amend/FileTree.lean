import Amend.Path
import Amend.Table
import Amend.Text.Quoted
import Amend.Text.Utf8

/-!
# File trees

The files and directories that a run works on.  Every entry is known by its location, the
components from the root down; the root itself is always a directory.  A path is followed component
by component as an operating system does it: each component but the last has to be a directory, and
a double dot leads to the directory above.

A new file goes to the end of the table and a removed one leaves no trace, so a tree from which all
new files have been removed is the tree from before.
-/

namespace Amend

/-- What a file holds: text, or octets that encode none. -/
inductive Content where
  | text (t : Text)
  | binary (octets : List UInt8)
  deriving DecidableEq, Repr, Inhabited

/-- An entry of a file tree. -/
inductive Entry where
  | file (content : Content)
  | directory
  deriving DecidableEq, Repr, Inhabited

/-- The components from the root to an entry. -/
abbrev Location := List Text

/-- Why an operation on a file fails. -/
inductive FileCause where
  | notFound
  | alreadyExists
  | notDirectory
  | isDirectory
  | nameTooLong
  /-- A name with a null character means no file at all. -/
  | nullInName
  deriving DecidableEq, Repr

/-- A failed operation and the path that it was given. -/
structure FileError where
  cause : FileCause
  path : Text
  deriving DecidableEq, Repr

namespace FileCause

/-- The number that operating systems give to the cause; a name with a null character never gets as
far as the operating system. -/
def number? : FileCause → Option Nat
  | notFound => some 2
  | alreadyExists => some 17
  | notDirectory => some 20
  | isDirectory => some 21
  | nameTooLong => some 36
  | nullInName => none

/-- The cause in words. -/
def describe : FileCause → Text
  | notFound => "No such file or directory"
  | alreadyExists => "File exists"
  | notDirectory => "Not a directory"
  | isDirectory => "Is a directory"
  | nullInName => "embedded null byte"
  | nameTooLong => "File name too long"

end FileCause

/-- An operating system's words for a failure: number, cause and quoted name. -/
def systemMessage (number : Nat) (cause name : Text) : Text :=
  "[Errno " ++ Text.ofNat number ++ "] " ++ cause ++ ": " ++ name.quoted

namespace FileError

/-- The failure in words. -/
def message (e : FileError) : Text :=
  match e.cause.number? with
  | some number => systemMessage number e.cause.describe e.path
  | none => e.cause.describe

end FileError

namespace Content

/-- The content that a sequence of octets makes. -/
def ofOctets (octets : List UInt8) : Content :=
  match Utf8.decode octets with
  | .ok t => .text t
  | .error _ => .binary octets

/-- The content as text. -/
def toText : Content → Except Utf8Error Text
  | text t => .ok t
  | binary octets => Utf8.decode octets

end Content

/-- The files and directories below the root. -/
structure FileTree where
  entries : Table Location Entry
  deriving DecidableEq, Inhabited

namespace FileTree

/-- The tree that has only its root. -/
def empty : FileTree := ⟨Table.empty⟩

/-- The entry at a location. -/
def entry? (tree : FileTree) : Location → Option Entry
  | [] => some .directory
  | loc => tree.entries.get? loc

/-- The most octets that the name of a file may have. -/
def maxNameOctets : Nat := 255

/-- The most octets that a path may have. -/
def maxPathOctets : Nat := 4095

/-- The number of octets that encode a text. -/
def octetCount (t : Text) : Nat := t.foldl (fun n c => n + c.utf8Size) 0

/-- Follows components from a directory.  The last one need not exist. -/
def walk (tree : FileTree) : Location → List Text → Except FileCause Location
  | here, [] => .ok here
  | here, part :: parts =>
    if part = ['.', '.'] then tree.walk here.dropLast parts
    else if maxNameOctets < octetCount part then .error .nameTooLong
    else
      let next := here ++ [part]
      if parts.isEmpty then .ok next
      else
        match tree.entry? next with
        | none => .error .notFound
        | some (.file _) => .error .notDirectory
        | some .directory => tree.walk next parts

/-- The location that an absolute path names.  A path that is too long is not followed at all. -/
def locate (tree : FileTree) (p : Path) : Except FileCause Location :=
  if p.hasNull then .error .nullInName
  else if maxPathOctets < octetCount p.toText then .error .nameTooLong
  else tree.walk [] p.parts

/-- Says for which path an operation failed. -/
def blame {α : Type} (p : Path) : Except FileCause α → Except FileError α
  | .ok a => .ok a
  | .error cause => .error ⟨cause, p.toText⟩

/-- The entry that a path names.  Only a name that is too long is a failure; a path that leads
nowhere has no entry. -/
def lookup (tree : FileTree) (p : Path) : Except FileError (Option Entry) :=
  match tree.locate p with
  | .ok loc => .ok (tree.entry? loc)
  | .error .nameTooLong => .error ⟨.nameTooLong, p.toText⟩
  | .error _ => .ok none

/-- Does a path name anything? -/
def pathExists (tree : FileTree) (p : Path) : Except FileError Bool :=
  (tree.lookup p).map Option.isSome

/-- Does a path name a file? -/
def isFile (tree : FileTree) (p : Path) : Except FileError Bool :=
  (tree.lookup p).map fun
    | some (.file _) => true
    | _ => false

/-- What the file at a path holds. -/
def read (tree : FileTree) (p : Path) : Except FileError Content :=
  blame p do
    let loc ← tree.locate p
    match tree.entry? loc with
    | none => .error .notFound
    | some .directory => .error .isDirectory
    | some (.file content) => .ok content

/-- The tree with a file at a path, which is replaced or created. -/
def write (tree : FileTree) (p : Path) (content : Content) : Except FileError FileTree :=
  blame p do
    let loc ← tree.locate p
    match tree.entry? loc with
    | some .directory => .error .isDirectory
    | _ => .ok ⟨tree.entries.insert loc (.file content)⟩

/-- The tree with a new file at a path, where nothing may be yet. -/
def create (tree : FileTree) (p : Path) (content : Content) : Except FileError FileTree :=
  blame p do
    let loc ← tree.locate p
    match tree.entry? loc with
    | some _ => .error .alreadyExists
    | none => .ok ⟨tree.entries.insert loc (.file content)⟩

/-- The tree without the file at a path; nothing happens if there is none. -/
def remove (tree : FileTree) (p : Path) : Except FileError FileTree :=
  match tree.locate p with
  | .error .notFound => .ok tree
  | .error cause => .error ⟨cause, p.toText⟩
  | .ok loc =>
    match tree.entry? loc with
    | none => .ok tree
    | some .directory => .error ⟨.isDirectory, p.toText⟩
    | some (.file _) => .ok ⟨tree.entries.erase loc⟩

/-- The tree with a directory at a location and at all locations above it. -/
def makeDirectory (tree : FileTree) (loc : Location) : FileTree :=
  (List.range loc.length).foldl (fun tree n =>
      let here := loc.take (n + 1)
      if (tree.entry? here).isSome then tree else ⟨tree.entries.insert here .directory⟩)
    tree

/-- The tree with an entry at a location, and directories at all locations above it. -/
def place (tree : FileTree) (loc : Location) (entry : Entry) : FileTree :=
  ⟨(tree.makeDirectory loc.dropLast).entries.insert loc entry⟩

/-- The files below a directory, each with its location seen from there. -/
def filesBelow (tree : FileTree) (dir : Location) : List (Location × Content) :=
  tree.entries.entries.filterMap fun (loc, entry) =>
    match entry with
    | .file content => if dir.isPrefixOf loc then some (loc.drop dir.length, content) else none
    | .directory => none

end FileTree

end Amend
