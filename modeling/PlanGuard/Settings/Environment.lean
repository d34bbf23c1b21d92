import PlanGuard.Settings.Tree

/-!
# Settings from the environment

A variable whose name starts with the program's own name sets the setting that
the rest of its name says, in any case, with two underscores between the steps
of the path.
-/

namespace PlanGuard.Environment

/-- What the names of variables for settings begin with. -/
def front : String := "wrtpilot_"

/-- The least and one more than the greatest 64-bit whole number with a sign. -/
def signedBound : Int := 9223372036854775808

/-- The value of a variable: a flag, a number, or else a text. -/
def value (text : String) : Setting :=
  if text.toLower = "true" then .flag true
  else if text.toLower = "false" then .flag false
  else
    match (Number.integer? text).filter fun n => -signedBound ≤ n && n < signedBound with
    | some n => .integer n
    | none =>
        match Number.double? text with
        | some number => .real number
        | none => .text text

/-- A path with a dot for every two underscores. -/
def dotted : List Char → List Char
  | [] => []
  | '_' :: '_' :: rest => '.' :: dotted rest
  | c :: rest => c :: dotted rest

/-- The name, with dots, of the setting that a variable of this name sets, if it sets one. -/
def settingName? (name : String) : Option String :=
  let letters := name.toLower.toList
  if front.toList.isPrefixOf letters then
    some (String.ofList (dotted (letters.drop front.length)))
  else none

def setting? (binding : String × String) : Option (String × Setting) :=
  (settingName? binding.1).map fun name => (name, value binding.2)

def layer (bindings : List (String × String)) : List (String × Setting) :=
  bindings.filterMap setting?

end PlanGuard.Environment
