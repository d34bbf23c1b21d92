import PlanGuard.Text.Blank

/-!
# Files of environment variables

A file with one `NAME=value` on each line adds variables to an environment;
those that are there already stay as they are.  Values can be quoted, quoted
ones can go on over several lines, and outside single quotes they can mention
other variables.  What comes after a line that cannot be read is left out.
-/

namespace PlanGuard.Cli

namespace EnvironmentFile

inductive Place where
  | complete
  | escape
  | single
  | singleEscape
  | double
  | doubleEscape
  | comment
  | blank
  deriving DecidableEq

/-- What opens after text or blanks. -/
def Place.opened (c : Char) : Place :=
  if c = '\\' then .escape
  else if c = '"' then .double
  else if c = '\'' then .single
  else .complete

def Place.next (place : Place) (c : Char) : Place :=
  match place with
  | .blank => if c = '#' then .comment else .opened c
  | .escape => .complete
  | .complete =>
      if Text.isBlank c && c != '\n' && c != '\r' then .blank else .opened c
  | .double => if c = '\\' then .doubleEscape else if c = '"' then .complete else .double
  | .doubleEscape => .double
  | .single => if c = '\\' then .singleEscape else if c = '\'' then .complete else .single
  | .singleEscape => .single
  | .comment => .comment

/-- Where a reader is after a line, and the line up to a comment in it. -/
def scan : Place → List Char → Place × List Char
  | place, [] => (place, [])
  | place, c :: rest =>
      match place.next c with
      | .comment => (.comment, [])
      | next =>
          let (final, kept) := scan next rest
          (final, c :: kept)

/-- The lines of a text, each with the line break that ends it. -/
def physicalLines : List Char → List (List Char)
  | [] => []
  | c :: rest =>
      if c = '\n' then [c] :: physicalLines rest
      else
        match physicalLines rest with
        | [] => [[c]]
        | line :: more => (c :: line) :: more

def withoutBreak (line : List Char) : List Char :=
  match line.reverse with
  | '\n' :: '\r' :: rest => rest.reverse
  | '\n' :: rest => rest.reverse
  | _ => line

/--
The lines of a file, where quotes that are open at the end of a line join it
with the next; `none` for one that the file leaves open.
-/
def logicalLines : Place → (begun : List Char) → List (List Char) →
    List (Option (List Char))
  | place, _, [] => if place = .complete then [] else [none]
  | place, begun, line :: rest =>
      let whole := begun ++ line
      if (whole.dropWhile Text.isBlank).head? = some '#' then
        some [] :: logicalLines .complete [] rest
      else
        match scan place line with
        | (.complete, _) =>
            some (withoutBreak whole) :: logicalLines .complete [] rest
        | (.comment, kept) =>
            some (begun ++ kept) :: logicalLines .complete [] rest
        | (open_, _) => logicalLines open_ whole rest

abbrev Variables := List (String × String)

structure Value where
  /-- The characters of the value, newest first. -/
  output : List Char := []
  /-- The quote that is open. -/
  quote : Option Char := none
  escaped : Bool := false
  /-- Only blanks or a comment can follow. -/
  ended : Bool := false
  commented : Bool := false
  /-- The name of a variable that is being read, newest first. -/
  name : Option (List Char) := none
  /-- That name stands in braces. -/
  braced : Bool := false

namespace Value

def add (value : Value) (c : Char) : Value :=
  { value with output := c :: value.output }

/-- Puts the value of the variable that has been named. -/
def substitute (lookup : String → Option String) (value : Value) : Value :=
  match value.name with
  | none => value
  | some name =>
      let text := (lookup (String.ofList name.reverse)).getD ""
      { value with
        output := text.toList.reverse ++ value.output
        name := none, braced := false }

def inName (lookup : String → Option String) (isLetter : Char → Bool)
    (value : Value) (name : List Char) (c : Char) : Value :=
  if isLetter c then { value with name := some (c :: name) }
  else if value.braced then
    if c = '\x7d' then value.substitute lookup
    else { value with name := some (c :: name) }
  else if c = '\x7b' && name.isEmpty then { value with braced := true }
  else
    let value := value.substitute lookup
    if c = '$' then { value with name := some [] } else value.add c

/-- A character after a backslash; most have no meaning there. -/
def unescape (value : Value) (c : Char) : Option Value :=
  let value := { value with escaped := false }
  if ['\\', '\'', '"', '$', ' '].contains c then some (value.add c)
  else if c = 'n' then some (value.add '\n')
  else none

def step (lookup : String → Option String) (isLetter : Char → Bool)
    (value : Value) (c : Char) : Option Value :=
  if value.commented then some value
  else if value.ended then
    if c = ' ' || c = '\t' then some value
    else if c = '#' then some { value with commented := true }
    else none
  else if value.escaped then value.unescape c
  else if value.quote = some '\'' then
    if c = '\'' then some { value with quote := none } else some (value.add c)
  else
    match value.name with
    | some name => some (value.inName lookup isLetter name c)
    | none =>
        if c = '$' then some { value with name := some [] }
        else if c = '\\' then some { value with escaped := true }
        else if value.quote = some '"' then
          if c = '"' then some { value with quote := none } else some (value.add c)
        else if c = '\'' || c = '"' then some { value with quote := some c }
        else if c = ' ' || c = '\t' then some { value with ended := true }
        else some (value.add c)

def finish (lookup : String → Option String) (value : Value) : Option String :=
  if value.quote.isSome || value.braced then none
  else some (String.ofList (value.substitute lookup).output.reverse)

end Value

def value? (lookup : String → Option String) (isLetter : Char → Bool)
    (text : List Char) : Option String :=
  (text.foldlM (Value.step lookup isLetter) {}).bind (Value.finish lookup)

def skipBlanks (letters : List Char) : List Char :=
  letters.dropWhile Text.isBlank

def name? (letters : List Char) : Option (String × List Char) :=
  match letters with
  | [] => none
  | c :: _ =>
      if c.isAlpha || c = '_' then
        let name := letters.takeWhile fun c => c.isAlphanum || c == '_' || c == '.'
        some (String.ofList name, skipBlanks (letters.drop name.length))
      else none

def afterEquals : List Char → Option (List Char)
  | '=' :: rest => some rest
  | _ => none

/-- The variable that a line sets, if it sets one; fails if it cannot be read. -/
def binding? (lookup : String → Option String) (isLetter : Char → Bool)
    (line : List Char) : Option (Option (String × String)) := do
  let line := skipBlanks (line.reverse.dropWhile Text.isBlank).reverse
  if line.isEmpty || line.head? = some '#' then return none
  let (name, rest) ← name? line
  let (name, rest) ←
    match name == "export", afterEquals rest with
    | _, some rest => some (name, rest)
    | true, none => do
        let (name, rest) ← name? rest
        let rest ← afterEquals rest
        pure (name, rest)
    | false, none => none
  let rest := skipBlanks rest
  if rest.isEmpty || rest.head? = some '#' then return some (name, "")
  let value ← value? lookup isLetter rest
  return some (name, value)

/-- Adds the variables of lines; `written` are those that the file itself has set. -/
def addLines (isLetter : Char → Bool) :
    (written environment : Variables) → List (Option (List Char)) → Variables
  | _, environment, [] => environment
  | _, environment, none :: _ => environment
  | written, environment, some line :: rest =>
      let lookup (name : String) : Option String :=
        (environment.lookup name).or (written.lookup name)
      match binding? lookup isLetter line with
      | none => environment
      | some none => addLines isLetter written environment rest
      | some (some (name, value)) =>
          let environment :=
            if (environment.lookup name).isSome then environment
            else environment ++ [(name, value)]
          addLines isLetter ((name, value) :: written) environment rest

def addTo (environment : Variables) (isLetter : Char → Bool) (text : String) :
    Variables :=
  let letters :=
    match text.toList with
    | '\uFEFF' :: rest => rest
    | letters => letters
  addLines isLetter [] environment
    (logicalLines .complete [] (physicalLines letters))

end EnvironmentFile

end PlanGuard.Cli
