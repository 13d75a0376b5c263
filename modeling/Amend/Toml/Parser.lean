import Amend.Toml.Document
import Amend.Toml.Scalar
import Amend.Toml.Token

/-!
# Reading TOML

The values, the statements and the whole of a document.  Values nest, so their readers call each
other; of any two calls inside each other at least one uses up a character, and twice as many steps
as the text has characters always suffice.

Nesting has a limit of its own.  Each reader is given the room that is left: a list takes two units
of it for what stands inside, and a table written in place takes three.
-/

namespace Amend.Toml

/-- Turns a missing result into a fault of form. -/
def orMalformed {α : Type} : Option α → Except TomlError α
  | some a => .ok a
  | none => .error .malformed

/-- The room for nesting in a document. -/
def nestingRoom : Nat := 982

/-- The room of a list. -/
def listRoom : Nat := 2

/-- The room of a table written in place. -/
def tableRoom : Nat := 3

/-- What is left after some of the room has been taken. -/
def takeRoom (needed room : Nat) : Except TomlError Nat :=
  if needed ≤ room then .ok (room - needed) else .error .tooDeep

mutual

/-- Reads a value. -/
def value : (fuel room : Nat) → Text → Except TomlError (Value × Text)
  | 0, _, _ => .error .malformed
  | fuel + 1, room, t =>
    match t with
    | '[' :: rest => do
      let room ← takeRoom listRoom room
      let rest ← orMalformed (skipVoid? false rest)
      match rest with
      | ']' :: rest => .ok (.list [], rest)
      | _ => do
        let (items, rest) ← listItems fuel room rest
        .ok (.list items, rest)
    | '\x7b' :: rest => do
      let room ← takeRoom tableRoom room
      match skipSpaces rest with
      | '\x7d' :: rest => .ok (.table [], rest)
      | rest => do
        let (doc, rest) ← inlineEntries fuel room .empty rest
        .ok (.table doc.entries, rest)
    | '"' :: _ => do
      let (s, rest) ← orMalformed (string? t)
      .ok (.text s, rest)
    | '\'' :: _ => do
      let (s, rest) ← orMalformed (string? t)
      .ok (.text s, rest)
    | _ =>
      match ("true" : Text).isPrefixOf? t with
      | some rest => .ok (.boolean true, rest)
      | none =>
        match ("false" : Text).isPrefixOf? t with
        | some rest => .ok (.boolean false, rest)
        | none => scalar t

/-- Reads the items of a list up to its closing bracket; there is at least one. -/
def listItems : (fuel room : Nat) → Text → Except TomlError (List Value × Text)
  | 0, _, _ => .error .malformed
  | fuel + 1, room, t => do
    let (v, rest) ← value fuel room t
    let rest ← orMalformed (skipVoid? false rest)
    match rest with
    | ']' :: rest => .ok ([v], rest)
    | ',' :: rest => do
      let rest ← orMalformed (skipVoid? false rest)
      match rest with
      | ']' :: rest => .ok ([v], rest)
      | _ => do
        let (vs, rest) ← listItems fuel room rest
        .ok (v :: vs, rest)
    | _ => .error .malformed

/-- Reads the entries of a table written in place up to its closing brace; there is at least
one. -/
def inlineEntries : (fuel room : Nat) → Document → Text → Except TomlError (Document × Text)
  | 0, _, _, _ => .error .malformed
  | fuel + 1, room, doc, t => do
    let (key, rest) ← orMalformed (key? t)
    match rest with
    | '=' :: rest => do
      let (v, rest) ← value fuel room (skipSpaces rest)
      let doc ← orMalformed (doc.assignInline? key v)
      match skipSpaces rest with
      | '\x7d' :: rest => .ok (doc, rest)
      | ',' :: rest => inlineEntries fuel room doc (skipSpaces rest)
      | _ => .error .malformed
    | _ => .error .malformed

end

/-- Does a key begin with the character? -/
def startsKey (c : Char) : Bool := isBareKeyChar c || c == '"' || c == '\''

/-- Reads a statement: a key with its value, or a header. -/
def statement (doc : Document) (t : Text) : Except TomlError (Document × Text) :=
  match t with
  | '[' :: '[' :: rest => do
    let (key, rest) ← orMalformed (key? (skipSpaces rest))
    let doc ← orMalformed (doc.declareMember? key)
    match rest with
    | ']' :: ']' :: rest => .ok (doc, rest)
    | _ => .error .malformed
  | '[' :: rest => do
    let (key, rest) ← orMalformed (key? (skipSpaces rest))
    let doc ← orMalformed (doc.declareTable? key)
    match rest with
    | ']' :: rest => .ok (doc, rest)
    | _ => .error .malformed
  | _ => do
    let (key, rest) ← orMalformed (key? t)
    match rest with
    | '=' :: rest => do
      let (v, rest) ← value (2 * t.length) nestingRoom (skipSpaces rest)
      let doc ← orMalformed (doc.assign? key v)
      .ok (doc, rest)
    | _ => .error .malformed

/-- Reads at most `fuel` lines. -/
def statements : (fuel : Nat) → Document → Text → Except TomlError Document
  | 0, doc, _ => .ok doc
  | fuel + 1, doc, t =>
    match skipSpaces t with
    | [] => .ok doc
    | '\n' :: rest => statements fuel doc rest
    | c :: cs => do
      let (doc, rest) ←
        if c = '#' then .ok (doc, c :: cs)
        else if c = '[' || startsKey c then statement doc (c :: cs)
        else .error .malformed
      let rest ← orMalformed (skipComment? (skipSpaces rest))
      match rest with
      | [] => .ok doc
      | '\n' :: rest => statements fuel doc rest
      | _ => .error .malformed

/-- A line feed after a return counts as a line feed alone. -/
def joinLineEnds (t : Text) : Text := Text.replaceAll "\r\n" "\n" t

/-- Reads a document. -/
def parse (t : Text) : Except TomlError Entries :=
  let t := joinLineEnds t
  (statements (t.length + 1) .empty t).map Document.entries

end Amend.Toml
