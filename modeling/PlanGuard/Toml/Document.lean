import PlanGuard.Settings.Tree

/-!
# TOML documents

The tables of a document while it is read.  A table may be opened once by its
header, and extended by dotted keys only where dotted keys made it; so tables
remember how they came to be.
-/

namespace PlanGuard.Toml

/-- How a table came to be. -/
inductive Origin where
  /-- By its own header. -/
  | header
  /-- On the way to a table below it. -/
  | onTheWay
  /-- By dotted keys. -/
  | dotted
  deriving DecidableEq

inductive Item where
  | value (value : Setting)
  | table (origin : Origin) (members : List (String × Item))
  /-- An array of tables, newest first. -/
  | tables (elements : List (List (String × Item)))

abbrev Members := List (String × Item)

namespace Members

def put (key : String) (item : Item) : Members → Members
  | [] => [(key, item)]
  | (other, old) :: rest =>
      if other = key then (key, item) :: rest else (other, old) :: put key item rest

/--
Changes the table at the end of a path.  Tables on the way that are not there
come to be as `origin` says; dotted keys do not pass through tables that have
their own header, and an array of tables is passed through its newest element.
-/
def update (origin : Origin) (change : Members → Option Members) :
    List String → Members → Option Members
  | [], members => change members
  | key :: rest, members =>
      match members.lookup key with
      | none =>
          (update origin change rest []).map fun inner =>
            put key (.table origin inner) members
      | some (.value _) => none
      | some (.tables []) => none
      | some (.tables (newest :: older)) =>
          (update origin change rest newest).map fun newest =>
            put key (.tables (newest :: older)) members
      | some (.table made inner) =>
          if origin = .dotted && made = .header then none
          else
            (update origin change rest inner).map fun inner =>
              put key (.table made inner) members

/-- How the table at the end of a path came to be; `none` if there is none. -/
def origin? : List String → Members → Option Origin
  | [], _ => none
  | key :: rest, members =>
      match members.lookup key with
      | some (.table made inner) => if rest.isEmpty then some made else origin? rest inner
      | some (.tables (newest :: _)) =>
          if rest.isEmpty then some .header else origin? rest newest
      | _ => none

/-- Adds a value under a dotted key; no key may be given twice. -/
def addValue (path : List String) (key : String) (value : Setting)
    (members : Members) : Option Members :=
  let add (inner : Members) : Option Members :=
    if (inner.lookup key).isSome then none else some (put key (.value value) inner)
  match origin? path members with
  | some .onTheWay | some .header => none
  | _ => update .dotted add path members

def openTable (path : List String) (key : String) (members : Members) :
    Option Members :=
  let start (inner : Members) : Option Members :=
    match inner.lookup key with
    | none => some (put key (.table .header []) inner)
    | some (.table .onTheWay below) => some (put key (.table .header below) inner)
    | some _ => none
  update .onTheWay start path members

/-- Opens a further element of an array of tables by its header. -/
def openElement (path : List String) (key : String) (members : Members) :
    Option Members :=
  let start (inner : Members) : Option Members :=
    match inner.lookup key with
    | none => some (put key (.tables [[]]) inner)
    | some (.tables elements) => some (put key (.tables ([] :: elements)) inner)
    | some _ => none
  update .onTheWay start path members

/-- Changes the table that was opened last, which is at the end of a path. -/
def updateOpened (change : Members → Option Members) :
    List String → Members → Option Members :=
  update .onTheWay change

end Members

mutual

def Item.setting : Item → Setting
  | .value value => value
  | .table _ members => .table (settings members)
  | .tables elements => .list (elementSettings elements).reverse

def settings : List (String × Item) → List (String × Setting)
  | [] => []
  | (key, item) :: rest => (key, item.setting) :: settings rest

def elementSettings : List (List (String × Item)) → List Setting
  | [] => []
  | members :: rest => .table (settings members) :: elementSettings rest

end

end PlanGuard.Toml
