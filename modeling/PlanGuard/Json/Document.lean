/-!
# JSON documents

A document is written either on one line without spaces or, for people, with
two spaces of indentation.  Members keep the order in which they are given.
-/

namespace PlanGuard

inductive Json where
  | null
  | bool (value : Bool)
  /-- A number by its literal. -/
  | number (literal : String)
  | text (value : String)
  | array (items : List Json)
  | object (members : List (String × Json))

namespace Json

def nat (n : Nat) : Json := .number (toString n)

def int (n : Int) : Json := .number (toString n)

def texts (values : List String) : Json := .array (values.map .text)

def ofOption {α : Type} (write : α → Json) : Option α → Json
  | none => .null
  | some value => write value

/-- A member that is left out when there is nothing to say. -/
def optionally (name : String) (value : Option Json) : List (String × Json) :=
  match value with
  | none => []
  | some json => [(name, json)]

def hexDigit (n : Nat) : Char :=
  if n < 10 then Char.ofNat (48 + n) else Char.ofNat (87 + n)

/-- A character inside a string: only what must be escaped is. -/
def escape (c : Char) : List Char :=
  if c = '"' then ['\\', '"']
  else if c = '\\' then ['\\', '\\']
  else if c = '\n' then ['\\', 'n']
  else if c = '\r' then ['\\', 'r']
  else if c = '\t' then ['\\', 't']
  else if c = '\x08' then ['\\', 'b']
  else if c = '\x0c' then ['\\', 'f']
  else if c.toNat < 32 then
    ['\\', 'u', '0', '0', hexDigit (c.toNat / 16), hexDigit (c.toNat % 16)]
  else [c]

def quote (value : String) : List Char :=
  '"' :: (value.toList.flatMap escape ++ ['"'])

mutual

def write : Json → List Char
  | .null => ['n', 'u', 'l', 'l']
  | .bool true => ['t', 'r', 'u', 'e']
  | .bool false => ['f', 'a', 'l', 's', 'e']
  | .number literal => literal.toList
  | .text value => quote value
  | .array items => '[' :: (writeItems items ++ [']'])
  | .object members => '\x7b' :: (writeMembers members ++ ['\x7d'])

def writeItems : List Json → List Char
  | [] => []
  | [item] => write item
  | item :: next :: rest => write item ++ ',' :: writeItems (next :: rest)

def writeMembers : List (String × Json) → List Char
  | [] => []
  | [(name, value)] => quote name ++ ':' :: write value
  | (name, value) :: next :: rest =>
      quote name ++ ':' :: (write value ++ ',' :: writeMembers (next :: rest))

end

def compact (json : Json) : String :=
  String.ofList json.write

def newLine (depth : Nat) : List Char :=
  '\n' :: List.replicate (2 * depth) ' '

mutual

/-- The document with an item or member on each line. -/
def layOut (depth : Nat) : Json → List Char
  | .array [] => ['[', ']']
  | .array items =>
      '[' :: (layOutItems (depth + 1) items ++ newLine depth ++ [']'])
  | .object [] => ['\x7b', '\x7d']
  | .object members =>
      '\x7b' :: (layOutMembers (depth + 1) members ++ newLine depth ++ ['\x7d'])
  | .null => write .null
  | .bool value => write (.bool value)
  | .number literal => write (.number literal)
  | .text value => write (.text value)

def layOutItems (depth : Nat) : List Json → List Char
  | [] => []
  | [item] => newLine depth ++ layOut depth item
  | item :: next :: rest =>
      newLine depth ++ layOut depth item ++ ',' :: layOutItems depth (next :: rest)

def layOutMembers (depth : Nat) : List (String × Json) → List Char
  | [] => []
  | [(name, value)] =>
      newLine depth ++ quote name ++ ':' :: ' ' :: layOut depth value
  | (name, value) :: next :: rest =>
      newLine depth ++ quote name ++ ':' :: ' ' ::
        (layOut depth value ++ ',' :: layOutMembers depth (next :: rest))

end

def pretty (json : Json) : String :=
  String.ofList (layOut 0 json)

end Json

end PlanGuard
