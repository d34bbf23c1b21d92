/-!
# Words of a shell

A word is made of pieces: plain text, and things that stand for other text.
Each piece knows whether it was quoted, since quoted text is never split.
What is nested in a piece is kept as it was written and read when it is needed.
-/

namespace PlanGuard.Workbench.Shell

inductive Piece where
  | text (content : String) (quoted : Bool)
  /-- A variable, with an operator and its operand if it has them. -/
  | variable (name operator operand : String) (quoted : Bool)
  /-- The output of a command. -/
  | command (source : String) (quoted : Bool)
  /-- The value of an expression. -/
  | value (source : String) (quoted : Bool)
  deriving DecidableEq

abbrev Word := List Piece

/-- Where a word is read, which decides what ends it. -/
inductive Setting where
  /-- In a command, up to a blank or an operator. -/
  | bare
  /-- Up to the end of the text. -/
  | whole
  /-- Between double quotes. -/
  | quoted
  deriving DecidableEq

def endsWord (c : Char) : Bool :=
  [' ', '\t', '\n', ';', '&', '|', '<', '>', '(', ')'].contains c

def startsName (c : Char) : Bool := c.isAlpha || c == '_'

def inName (c : Char) : Bool := c.isAlphanum || c == '_'

/-- The characters that a backslash keeps plain between double quotes. -/
def isEscapable (c : Char) : Bool :=
  ['$', '\x60', '"', '\\'].contains c

/-- The variables whose names are single characters. -/
def isSpecial (c : Char) : Bool :=
  c.isDigit || ['?', '$', '#', '@', '*', '!', '-'].contains c

def consText (c : Char) (quoted : Bool) : Word → Word
  | .text content same :: rest =>
      if quoted = same then .text (String.singleton c ++ content) quoted :: rest
      else .text (String.singleton c) quoted :: .text content same :: rest
  | word => .text (String.singleton c) quoted :: word

def operators : List String :=
  [":-", ":=", ":+", ":?", "##", "%%", "-", "=", "+", "?", "#", "%"]

def braced (content : List Char) (quoted : Bool) : Option Piece :=
  match content with
  | ['#'] => some (.variable "#" "" "" quoted)
  | '#' :: name =>
      if name.all inName || (name.length = 1 && name.all isSpecial) then
        some (.variable (String.ofList name) "length" "" quoted)
      else none
  | _ =>
      let name :=
        match content with
        | c :: _ =>
            if startsName c then content.takeWhile inName
            else if c.isDigit then content.takeWhile Char.isDigit
            else if isSpecial c then [c]
            else []
        | [] => []
      let rest := content.drop name.length
      if name.isEmpty then none
      else if rest.isEmpty then some (.variable (String.ofList name) "" "" quoted)
      else
        (operators.find? fun operator => operator.toList.isPrefixOf rest).map
          fun operator =>
            .variable (String.ofList name) operator
              (String.ofList (rest.drop operator.length)) quoted

/--
The text up to the closing character that matches an opening one already read,
and what follows it; quoted text is passed over.
-/
def enclosed (opening closing : Char) :
    (depth : Nat) → (quote : Option Char) → List Char →
      Option (List Char × List Char)
  | _, _, [] => none
  | depth, quote, '\\' :: c :: rest =>
      if quote = some '\'' then
        if c = '\'' then
          (enclosed opening closing depth none rest).map fun (inner, rest) =>
            ('\\' :: c :: inner, rest)
        else
          (enclosed opening closing depth quote rest).map fun (inner, rest) =>
            ('\\' :: c :: inner, rest)
      else
        (enclosed opening closing depth quote rest).map fun (inner, rest) =>
          ('\\' :: c :: inner, rest)
  | depth, some quote, c :: rest =>
      let next := if c = quote then none else some quote
      (enclosed opening closing depth next rest).map fun (inner, rest) =>
        (c :: inner, rest)
  | depth, none, c :: rest =>
      let onward (depth : Nat) (quote : Option Char) :
          Option (List Char × List Char) :=
        (enclosed opening closing depth quote rest).map fun (inner, rest) =>
          (c :: inner, rest)
      if c = closing then
        match depth with
        | 0 => some ([], rest)
        | depth + 1 => onward depth none
      else if c = opening then onward (depth + 1) none
      else if c = '\'' || c = '"' then onward depth (some c)
      else onward depth none

/-- What a dollar sign makes of the text after it; `none` for itself. -/
def dollar (quoted : Bool) (rest : List Char) : Option (Option (Piece × List Char)) :=
  match rest with
  | '(' :: '(' :: rest =>
      match enclosed '(' ')' 1 none rest with
      | some (inner, rest) =>
          some (some (.value (String.ofList inner.dropLast) quoted, rest))
      | none => none
  | '(' :: rest =>
      match enclosed '(' ')' 0 none rest with
      | some (inner, rest) =>
          some (some (.command (String.ofList inner) quoted, rest))
      | none => none
  | '\x7b' :: rest =>
      match enclosed '\x7b' '\x7d' 0 none rest with
      | some (inner, rest) =>
          match braced inner quoted with
          | some piece => some (some (piece, rest))
          | none => none
      | none => none
  | c :: rest =>
      if startsName c then
        let name := c :: rest.takeWhile inName
        some (some (.variable (String.ofList name) "" "" quoted,
          rest.dropWhile inName))
      else if isSpecial c then
        some (some (.variable (String.singleton c) "" "" quoted, rest))
      else some none
  | [] => some none

def readWord : (fuel : Nat) → Setting → List Char → Option (Word × List Char)
  | 0, _, _ => none
  | _ + 1, setting, [] => if setting = .quoted then none else some ([], [])
  | fuel + 1, setting, c :: rest =>
      let quoted : Bool := setting = .quoted
      let onward (read : List Char) (add : Word → Word) :
          Option (Word × List Char) :=
        (readWord fuel setting read).map fun (word, rest) => (add word, rest)
      if setting = .bare && endsWord c then some ([], c :: rest)
      else if c = '"' then
        if quoted then some ([], rest)
        else
          match readWord fuel .quoted rest with
          | none => none
          | some (inner, rest) =>
              onward rest fun word => .text "" true :: (inner ++ word)
      else if c = '\'' && !quoted then
        let inner := rest.takeWhile (· != '\'')
        match rest.drop inner.length with
        | [] => none
        | _ :: rest =>
            onward rest fun word => .text (String.ofList inner) true :: word
      else if c = '\\' then
        match rest with
        | [] => onward [] (consText '\\' quoted)
        | '\n' :: rest => onward rest id
        | next :: rest =>
            if quoted && !isEscapable next then
              onward rest fun word => consText '\\' true (consText next true word)
            else onward rest (consText next true)
      else if c = '$' then
        match dollar quoted rest with
        | none => none
        | some none => onward rest (consText '$' quoted)
        | some (some (piece, rest)) => onward rest (piece :: ·)
      else if c = '\x60' then
        let inner := rest.takeWhile (· != '\x60')
        match rest.drop inner.length with
        | [] => none
        | _ :: rest => onward rest (.command (String.ofList inner) quoted :: ·)
      else onward rest (consText c quoted)

/-- The word that a whole text is, read in a setting that nothing in it ends. -/
def wordOf (quoted : Bool) (text : String) : Word :=
  if quoted then
    match readWord (text.length + 2) .quoted (text.toList ++ ['"']) with
    | some (word, _) => word
    | none => [.text text true]
  else
    match readWord (text.length + 2) .whole text.toList with
    | some (word, _) => word
    | none => [.text text true]

end PlanGuard.Workbench.Shell
