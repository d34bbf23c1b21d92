import PlanGuard.Toml.Document
import PlanGuard.Toml.Quoted
import PlanGuard.Toml.Scalar

/-!
# Reading TOML

A document is read expression by expression: a header opens a table, and a key
with its value adds to the table opened last.
-/

namespace PlanGuard.Toml

def isSpace (c : Char) : Bool :=
  c == ' ' || c == '\t'

def skipSpaces (letters : List Char) : List Char :=
  letters.dropWhile isSpace

/-- The rest of a line that may hold a comment, then the lines after it. -/
def endOfLine (letters : List Char) : Option (List Char) :=
  let rest :=
    match skipSpaces letters with
    | '#' :: comment => comment.dropWhile fun c => !isControl c
    | rest => rest
  match rest with
  | [] => some []
  | rest => Quoted.takeLineEnd rest

/-- Blanks, line ends and comments in front, `fuel` of them at most. -/
def skipLines : (fuel : Nat) → List Char → List Char
  | 0, letters => letters
  | fuel + 1, letters =>
      match skipSpaces letters with
      | [] => []
      | c :: rest =>
          if c = '#' || c = '\n' || c = '\r' then
            match endOfLine (c :: rest) with
            | some rest => skipLines fuel rest
            | none => c :: rest
          else c :: rest

def isKeyLetter (c : Char) : Bool :=
  c.isAlphanum || c == '_' || c == '-'

/-- One step of a key, bare or quoted. -/
def simpleKey (letters : List Char) : Option (String × List Char) :=
  match letters with
  | '"' :: rest => Quoted.line '"' (rest.length + 1) [] rest
  | '\'' :: rest => Quoted.line '\'' (rest.length + 1) [] rest
  | letters =>
      let name := letters.takeWhile isKeyLetter
      if name.isEmpty then none
      else some (String.ofList name, letters.drop name.length)

def dottedKey : (fuel : Nat) → (path : List String) → List Char →
    Option (List String × String × List Char)
  | 0, _, _ => none
  | fuel + 1, path, letters =>
      (simpleKey (skipSpaces letters)).bind fun (name, rest) =>
        match skipSpaces rest with
        | '.' :: rest => dottedKey fuel (name :: path) rest
        | rest => some (path.reverse, name, rest)

/-- The letters of a value without quotes or brackets. -/
def isScalarLetter (c : Char) : Bool :=
  c.isAlphanum || c == '_' || c == '-' || c == '+' || c == '.' || c == ':'

/-- The letters of such a value; a date and a time may have a blank between. -/
def scalarLetters (letters : List Char) : List Char :=
  let front := letters.takeWhile isScalarLetter
  match letters.drop front.length with
  | ' ' :: c :: rest =>
      if (date front).any (·.2.isEmpty) && c.isDigit then
        front ++ ' ' :: (c :: rest).takeWhile isScalarLetter
      else front
  | _ => front

mutual

def value : (fuel : Nat) → List Char → Option (Setting × List Char)
  | 0, _ => none
  | fuel + 1, letters =>
      match letters with
      | '"' :: rest => (Quoted.value '"' rest).map fun (text, rest) => (.text text, rest)
      | '\'' :: rest => (Quoted.value '\'' rest).map fun (text, rest) => (.text text, rest)
      | '[' :: rest => items fuel [] (skipLines rest.length rest)
      | '\x7b' :: rest =>
          match skipSpaces rest with
          | '\x7d' :: rest => some (.table [], rest)
          | rest => inlineMembers fuel [] rest
      | letters =>
          let front := scalarLetters letters
          (scalar front).map fun value => (value, letters.drop front.length)

def items : (fuel : Nat) → (read : List Setting) → List Char →
    Option (Setting × List Char)
  | 0, _, _ => none
  | fuel + 1, read, letters =>
      match letters with
      | ']' :: rest => some (.list read.reverse, rest)
      | letters =>
          (value fuel letters).bind fun (item, rest) =>
            match skipLines rest.length rest with
            | ',' :: rest => items fuel (item :: read) (skipLines rest.length rest)
            | ']' :: rest => some (.list (item :: read).reverse, rest)
            | _ => none

def inlineMembers : (fuel : Nat) → Members → List Char → Option (Setting × List Char)
  | 0, _, _ => none
  | fuel + 1, members, letters =>
      (dottedKey letters.length [] letters).bind fun (path, key, rest) =>
        match rest with
        | '=' :: rest =>
            (value fuel (skipSpaces rest)).bind fun (found, rest) =>
              (members.addValue path key found).bind fun members =>
                match skipSpaces rest with
                | ',' :: rest => inlineMembers fuel members rest
                | '\x7d' :: rest => some (.table (settings members), rest)
                | _ => none
        | _ => none

end

structure Reader where
  members : Members := []
  opened : List String := []

namespace Reader

def keyValue (reader : Reader) (letters : List Char) : Option (Reader × List Char) := do
  let (path, key, rest) ← dottedKey letters.length [] letters
  let '=' :: rest := rest | none
  let (found, rest) ← value (rest.length + 1) (skipSpaces rest)
  let members ←
    Members.updateOpened (Members.addValue path key found) reader.opened reader.members
  some ({ reader with members }, rest)

def header (reader : Reader) (letters : List Char) : Option (Reader × List Char) := do
  let (isElement, letters) :=
    match letters with
    | '[' :: rest => (true, rest)
    | letters => (false, letters)
  let (path, key, rest) ← dottedKey letters.length [] letters
  let opened := path ++ [key]
  match isElement, rest with
  | false, ']' :: rest =>
      (reader.members.openTable path key).map fun members => ({ members, opened }, rest)
  | true, ']' :: ']' :: rest =>
      (reader.members.openElement path key).map fun members => ({ members, opened }, rest)
  | _, _ => none

/-- Reads to the end.  Each step takes a line, so the length is fuel enough. -/
def run : (fuel : Nat) → Reader → List Char → Option Reader
  | 0, _, _ => none
  | fuel + 1, reader, letters =>
      match skipLines letters.length letters with
      | [] => some reader
      | c :: rest =>
          let next := if c = '[' then reader.header rest else reader.keyValue (c :: rest)
          next.bind fun (reader, rest) =>
            (endOfLine rest).bind fun rest => run fuel reader rest

end Reader

/-- The settings of a document; `none` if it is not TOML. -/
def parse (text : String) : Option (List (String × Setting)) :=
  (Reader.run (text.length + 1) {} text.toList).map fun reader => settings reader.members

end PlanGuard.Toml
