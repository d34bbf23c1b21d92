import PlanGuard.Machine.FileTree

/-!
# From expanded words to fields

An expanded word is a sequence of marks.  Text that came from an unquoted
expansion is split at blanks; what was quoted stays in one piece, and makes a
field even when it is empty.  Stars and question marks that were not quoted
stand for the names of files.
-/

namespace PlanGuard.Workbench.Shell

inductive Mark where
  | letter (c : Char) (quoted : Bool)
  /-- A character that an unquoted expansion has brought. -/
  | loose (c : Char)
  /-- Something quoted is here. -/
  | hold
  /-- A field ends here. -/
  | bound
  deriving DecidableEq

abbrev Field := List (Char × Bool)

namespace Field

def text (field : Field) : String :=
  String.ofList (field.map (·.1))

end Field

def isBlank (c : Char) : Bool :=
  c == ' ' || c == '\t' || c == '\n'

namespace Mark

def fields : (begun : Option Field) → List Mark → List Field
  | none, [] => []
  | some field, [] => [field.reverse]
  | begun, .letter c quoted :: rest => fields (some ((c, quoted) :: begun.getD [])) rest
  | begun, .hold :: rest => fields (some (begun.getD [])) rest
  | begun, .loose c :: rest =>
      if isBlank c then
        match begun with
        | some field => field.reverse :: fields none rest
        | none => fields none rest
      else fields (some ((c, false) :: begun.getD [])) rest
  | begun, .bound :: rest =>
      match begun with
      | some field => field.reverse :: fields none rest
      | none => fields none rest

def text (marks : List Mark) : String :=
  String.ofList (marks.filterMap fun mark =>
    match mark with
    | .letter c _ => some c
    | .loose c => some c
    | .hold => none
    | .bound => some ' ')

def ofText (quoted : Bool) (content : String) : List Mark :=
  if quoted then .hold :: content.toList.map fun c => .letter c true
  else content.toList.map .loose

end Mark

/-- A pattern with stars and question marks matches a whole text. -/
def Field.covers : Field → List Char → Bool
  | [], text => text.isEmpty
  | ('*', false) :: pattern, [] => covers pattern []
  | ('*', false) :: pattern, c :: text =>
      covers pattern (c :: text) || covers (('*', false) :: pattern) text
  | ('?', false) :: pattern, _ :: text => covers pattern text
  | (c, _) :: pattern, d :: text => c == d && covers pattern text
  | _ :: _, [] => false
termination_by pattern text => pattern.length + text.length

namespace Field

def isPattern (field : Field) : Bool :=
  field.any fun letter => !letter.2 && (letter.1 == '*' || letter.1 == '?')

def parts : Field → List Field
  | [] => [[]]
  | (c, quoted) :: rest =>
      match parts rest with
      | [] => [[(c, quoted)]]
      | part :: more =>
          if c = '/' then [] :: part :: more
          else ((c, quoted) :: part) :: more

/-- The names in a directory that a part of a path stands for, in order. -/
def names (files : FileTree) (directory : List String) (path : String)
    (part : Field) : List String :=
  let found :=
    match files.resolve directory (if path = "" then "." else path) with
    | .ok place => (files.entriesAt place).toOption.getD []
    | .error _ => []
  let hidden : Bool := part.head?.any fun letter => letter.1 == '.'
  let fitting := (found.map (·.1)).filter fun name =>
    part.covers name.toList && (hidden || !name.startsWith ".")
  fitting.mergeSort fun first second => !(second < first)

/-- The paths that the parts of a path stand for, each after one of `heads`. -/
def paths (files : FileTree) (directory : List String) :
    (heads : List String) → List Field → List String
  | heads, [] => heads
  | heads, part :: rest =>
      let slash := if rest.isEmpty then "" else "/"
      let next := heads.flatMap fun head =>
        if part.isPattern then
          (names files directory head part).map fun name => head ++ name ++ slash
        else [head ++ part.text ++ slash]
      paths files directory next rest

def expand (files : FileTree) (directory : List String) (field : Field) :
    List String :=
  if field.isPattern then
    let isThere (path : String) : Bool :=
      match files.resolve directory path with
      | .ok place => (files.find place).toOption.isSome
      | .error _ => false
    match (paths files directory [""] field.parts).filter isThere with
    | [] => [field.text]
    | found => found
  else [field.text]

end Field

end PlanGuard.Workbench.Shell
