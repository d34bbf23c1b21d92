import PlanGuard.Number.Literal

/-!
# Trees of settings

Settings come from several places and are merged before anything is decoded.
Until then they are a tree: tables of named settings, lists, and plain values.
Merging goes table by table; any other value replaces what was there.
-/

namespace PlanGuard

def partsOf (mark : Char) (text : String) : List String :=
  (text.toList.splitOn mark).map String.ofList

inductive Setting where
  | absent
  | flag (value : Bool)
  | integer (value : Int)
  | real (value : Number.Binary)
  | text (value : String)
  | list (items : List Setting)
  | table (members : List (String × Setting))

namespace Setting

def members : Setting → List (String × Setting)
  | .table members => members
  | _ => []

def get? (name : String) (setting : Setting) : Option Setting :=
  setting.members.lookup name

def getPath? : List String → Setting → Option Setting
  | [], setting => some setting
  | name :: rest, setting => (setting.get? name).bind (getPath? rest)

/-- Puts a member in place of the one with its name, or at the end. -/
def replace (name : String) (value : Setting) :
    List (String × Setting) → List (String × Setting)
  | [] => [(name, value)]
  | (other, old) :: rest =>
      if other = name then (name, value) :: rest
      else (other, old) :: replace name value rest

mutual

/-- Merges a value into what is there under its name; names are in lower case. -/
def mergeMember (name : String) (value : Setting) (target : Setting) : Setting :=
  let name := name.toLower
  match value with
  | .table members =>
      let inner := (target.get? name).getD (.table [])
      .table (replace name (mergeMembers members inner) target.members)
  | value => .table (replace name value target.members)

/-- Merges members in order. -/
def mergeMembers : List (String × Setting) → Setting → Setting
  | [], target => target
  | (name, value) :: rest, target =>
      mergeMembers rest (mergeMember name value target)

end

/-- A value at the end of a path, with nothing beside it. -/
def atPath : List String → Setting → Setting
  | [], value => value
  | name :: rest, value => .table [(name, atPath rest value)]

/-- A character of a plain name in a path. -/
def isPathLetter (c : Char) : Bool :=
  c.isAlphanum || c == '_' || c == '-' || c == ' '

/-- The path that a name stands for: plain names joined by dots, or itself. -/
def path (name : String) : List String :=
  let steps := partsOf '.' name
  if steps.all fun step => step != "" && step.toList.all isPathLetter then steps
  else [name]

/-- Merges the named values of one source into a tree, in order. -/
def overlay (base : Setting) (layer : List (String × Setting)) : Setting :=
  layer.foldl (fun tree (name, value) => mergeMembers (atPath (path name) value).members tree)
    base

end Setting

end PlanGuard
