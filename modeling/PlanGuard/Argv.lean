/-!
# Command lines

A command is a list of arguments that no shell ever reads.  `Argv.render` shows
it on one line for people and for pattern matching: arguments are separated by
single spaces, and an argument in which the separation could be mistaken is put
between double quotes.
-/

namespace PlanGuard

/-- A program followed by its arguments. -/
abbrev Argv := List String

namespace Argv

/-- The characters that make an argument ambiguous when it is shown bare. -/
def isDelicate (c : Char) : Bool :=
  c == ' ' || c == '\t' || c == '\n' || c == '\''

/-- An argument is quoted if it is empty or holds a delicate character. -/
def needsQuotes (letters : List Char) : Bool :=
  letters.isEmpty || letters.any isDelicate

def escape (c : Char) : List Char :=
  if c = '"' then ['\\', '"']
  else if c = '\\' then ['\\', '\\']
  else if c = '\n' then ['\\', 'n']
  else if c = '\t' then ['\\', 't']
  else if c = '\r' then ['\\', 'r']
  else if c = '\x00' then ['\\', 'x', '0', '0']
  else [c]

def renderLetters (letters : List Char) : List Char :=
  if needsQuotes letters then '"' :: letters.flatMap escape ++ ['"']
  else letters

def renderWords : List (List Char) → List Char
  | [] => []
  | [word] => renderLetters word
  | word :: next :: rest => renderLetters word ++ ' ' :: renderWords (next :: rest)

/-- The command line that stands for `argv` in reports and patterns. -/
def render (argv : Argv) : String :=
  String.ofList (renderWords (argv.map String.toList))

end Argv

end PlanGuard
