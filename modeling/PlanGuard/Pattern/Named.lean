import PlanGuard.Pattern.Flags

/-!
# Sets by name

Sets that patterns name instead of listing their members: by a letter after a
backslash, by a property of Unicode, or by a class of ASCII between brackets
and colons.
-/

namespace PlanGuard.Pattern

open Text (Ranges)

def singleton (n : Nat) : Ranges := [(n, n)]

namespace Named

/-- The letter classes for digits, blanks and word characters. -/
def letterClass? (unicode : Bool) (letter : Char) : Option Ranges :=
  match letter with
  | 'd' | 'D' => some (if unicode then Unicode.digits else [(48, 57)])
  | 's' | 'S' => some (if unicode then Unicode.blanks else [(9, 13), (32, 32)])
  | 'w' | 'W' =>
      some (if unicode then Unicode.wordCharacters
        else [(48, 57), (65, 90), (95, 95), (97, 122)])
  | _ => none

/-- A class by its letter; a capital letter stands for what is outside it. -/
def ofLetter (flags : Flags) (letter : Char) : Option Ranges :=
  (letterClass? flags.unicode letter).bind fun ranges =>
    let final := if letter.isUpper then flags.outside ranges else ranges
    if flags.unicode || Flags.isAscii final then some final else none

def ascii? (name : String) : Option Ranges :=
  match name with
  | "alnum" => some [(48, 57), (65, 90), (97, 122)]
  | "alpha" => some [(65, 90), (97, 122)]
  | "ascii" => some [(0, 127)]
  | "blank" => some [(9, 9), (32, 32)]
  | "cntrl" => some [(0, 31), (127, 127)]
  | "digit" => some [(48, 57)]
  | "graph" => some [(33, 126)]
  | "lower" => some [(97, 122)]
  | "print" => some [(32, 126)]
  | "punct" => some [(33, 47), (58, 64), (91, 96), (123, 126)]
  | "space" => some [(9, 13), (32, 32)]
  | "upper" => some [(65, 90)]
  | "word" => some [(48, 57), (65, 90), (95, 95), (97, 122)]
  | "xdigit" => some [(48, 57), (65, 70), (97, 102)]
  | _ => none

/-- A letter of a name in lower case, if it counts at all. -/
def plainLetter? (c : Char) : Option Char :=
  if c = ' ' || c = '_' || c = '-' || 128 ≤ c.toNat then none else some c.toLower

/--
The plain form of the name of a property: lower case, without blanks, dashes
and underscores, and without `is` in front.  The one name that would become a
single letter by that keeps its front.
-/
def plainName (name : List Char) : String :=
  match name with
  | first :: second :: rest =>
      if first.toLower = 'i' && second.toLower = 's' then
        let plain := rest.filterMap plainLetter?
        if plain = ['c'] then "isc" else String.ofList plain
      else String.ofList (name.filterMap plainLetter?)
  | _ => String.ofList (name.filterMap plainLetter?)

def ofName (name : List Char) : Option Ranges :=
  let name := plainName name
  (Unicode.property? name).or ((Unicode.category? name).or (Unicode.script? name))

/-- A category or script as the value of a property. -/
def ofValue (property value : List Char) : Option Ranges :=
  match plainName property with
  | "gc" | "generalcategory" => Unicode.category? (plainName value)
  | "sc" | "script" => Unicode.script? (plainName value)
  | _ => none

/-- What stands before and after the first occurrence of a mark. -/
def splitAt? (mark : List Char) : List Char → Option (List Char × List Char)
  | [] => none
  | c :: rest =>
      if mark.isPrefixOf (c :: rest) then some ([], (c :: rest).drop mark.length)
      else (splitAt? mark rest).map fun (before, after) => (c :: before, after)

/-- A property by what stands between its braces. -/
def ofDescription (description : List Char) : Option Ranges :=
  let split :=
    (splitAt? ['!', '='] description).or
      ((splitAt? [':'] description).or (splitAt? ['='] description))
  match split with
  | some (property, value) => ofValue property value
  | none => ofName description

end Named

end PlanGuard.Pattern
