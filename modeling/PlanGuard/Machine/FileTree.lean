import PlanGuard.Machine.SystemError

/-!
# Trees of files

A `FileTree` is a file, a directory with named entries, or one of the few
things that only look like files.  Places in a tree are lists of steps from its
root; `FileTree.resolve` finds the place that a path names.
-/

namespace PlanGuard

/-- What is known of a file or directory beside its content. -/
structure Stamp where
  /-- The last change in nanoseconds since 1970; `none` if it cannot be told. -/
  modified : Option Int := none
  mode : Nat := 0o644
  /-- The system refuses to remove it. -/
  pinned : Bool := false
  deriving DecidableEq

inductive Device where
  | null
  | zero
  deriving DecidableEq

inductive FileTree where
  | file (stamp : Stamp) (content : List UInt8)
  | directory (stamp : Stamp) (entries : List (String × FileTree))
  | device (device : Device)
  /-- A program that comes with the system, by its name. -/
  | program (name : String)

namespace FileTree

/-- What is known of a tree; nothing of devices and programs. -/
def stamp : FileTree → Stamp
  | .file stamp _ => stamp
  | .directory stamp _ => stamp
  | .device _ => {}
  | .program _ => { mode := 0o755 }

def isDirectory : FileTree → Bool
  | .directory _ _ => true
  | _ => false

def withMode (mode : Nat) : FileTree → FileTree
  | .file stamp content => .file { stamp with mode } content
  | .directory stamp entries => .directory { stamp with mode } entries
  | tree => tree

/-- Somebody may run it. -/
def isExecutable (tree : FileTree) : Bool :=
  tree.stamp.mode &&& 0o111 != 0

def find : FileTree → List String → Except SystemError FileTree
  | tree, [] => .ok tree
  | .directory _ entries, step :: rest =>
      match entries.lookup step with
      | some tree => find tree rest
      | none => .error .noEntry
  | _, _ :: _ => .error .notDirectory

/-- The place reached by steps, each taken from a directory that is there. -/
def walk (root : FileTree) :
    (here : List String) → List String → Except SystemError (List String)
  | here, [] => .ok here
  | here, step :: rest =>
      match root.find here with
      | .error error => .error error
      | .ok (.directory _ _) =>
          if step = ".." then walk root here.dropLast rest
          else walk root (here ++ [step]) rest
      | .ok _ => .error .notDirectory

/-- The letters before, between, and after slashes. -/
def pieces : List Char → List (List Char)
  | [] => [[]]
  | c :: rest =>
      if c = '/' then [] :: pieces rest
      else
        match pieces rest with
        | [] => [[c]]
        | first :: others => (c :: first) :: others

def steps (path : String) : List String :=
  ((pieces path.toList).map String.ofList).filter fun step =>
    step != "" && step != "."

/--
The place that a path names from a directory.  There need not be anything at
the place yet.
-/
def resolve (root : FileTree) (directory : List String) (path : String) :
    Except SystemError (List String) :=
  if path = "" then .error .noEntry
  else root.walk (if path.startsWith "/" then [] else directory) (steps path)

/-- The place that a path names if every step on the way is a directory. -/
def lexical (directory : List String) (path : String) : List String :=
  (steps path).foldl
    (fun place step => if step = ".." then place.dropLast else place ++ [step])
    (if path.startsWith "/" then [] else directory)

def pathOf (place : List String) : String :=
  "/" ++ "/".intercalate place

/-- An entry put in place of the one with its name, or added at the end. -/
def putEntry (name : String) (tree : FileTree) :
    List (String × FileTree) → List (String × FileTree)
  | [] => [(name, tree)]
  | entry :: rest =>
      if entry.1 = name then (name, tree) :: rest
      else entry :: putEntry name tree rest

def modify (change : FileTree → Except SystemError FileTree) :
    (place : List String) → FileTree → Except SystemError FileTree
  | [], tree => change tree
  | step :: rest, .directory stamp entries =>
      match entries.lookup step with
      | none => .error .noEntry
      | some tree =>
          match modify change rest tree with
          | .error error => .error error
          | .ok tree => .ok (.directory stamp (putEntry step tree entries))
  | _ :: _, _ => .error .notDirectory

/-- Changes the entries of a directory, which counts as a change of it. -/
def changeEntries (now : Int)
    (change : List (String × FileTree) → List (String × FileTree)) :
    FileTree → Except SystemError FileTree
  | .directory stamp entries =>
      .ok (.directory { stamp with modified := some now } (change entries))
  | _ => .error .notDirectory

/--
A directory whose entries have become `left`.  That counts as a change of it if an
entry is gone, and not if one of them was only changed itself.
-/
def leaving (now : Int) (stamp : Stamp) (entries left : List (String × FileTree)) :
    FileTree :=
  .directory
    (if left.length = entries.length then stamp else { stamp with modified := some now })
    left

mutual

/--
What is left of a tree that is removed with all that it holds; `none` if nothing is.
A directory goes after its entries, and stays if one of them does.
-/
def remnant? (now : Int) : FileTree → Option FileTree
  | .directory stamp entries =>
      let left := remnants now entries
      if left.isEmpty && !stamp.pinned then none
      else some (leaving now stamp entries left)
  | .file stamp content => if stamp.pinned then some (.file stamp content) else none
  | .device _ | .program _ => none

def remnants (now : Int) : List (String × FileTree) → List (String × FileTree)
  | [] => []
  | (name, tree) :: rest =>
      match remnant? now tree with
      | none => remnants now rest
      | some left => (name, left) :: rest

end

def siftEntries (now : Int) (sift : String × FileTree → Option (String × FileTree)) :
    FileTree → Except SystemError FileTree
  | .directory stamp entries =>
      .ok (leaving now stamp entries (entries.filterMap sift))
  | _ => .error .notDirectory

def put (root : FileTree) (now : Int) (place : List String) (tree : FileTree) :
    Except SystemError FileTree :=
  match place.getLast? with
  | none => .error .isDirectory
  | some name =>
      root.modify (changeEntries now (putEntry name tree)) place.dropLast

def erase (now : Int) (place : List String) (root : FileTree) :
    Except SystemError FileTree :=
  match place.getLast? with
  | none => .error .denied
  | some name =>
      root.modify (changeEntries now (·.filter fun entry => entry.1 != name))
        place.dropLast

def makeDirectory (now : Int) (mode : Nat) (place : List String) (root : FileTree) :
    Except SystemError FileTree :=
  match root.find place with
  | .ok _ => .error .alreadyThere
  | .error .noEntry =>
      root.put now place (.directory { modified := some now, mode } [])
  | .error error => .error error

/-- Makes the directories on the way to a place that are not there. -/
def makeDirectories (now : Int) (mode : Nat) :
    (here rest : List String) → FileTree → Except SystemError FileTree
  | _, [], root => .ok root
  | here, step :: rest, root =>
      let place := here ++ [step]
      match root.find place with
      | .ok (.directory _ _) => makeDirectories now mode place rest root
      | .ok _ => .error (if rest.isEmpty then .alreadyThere else .notDirectory)
      | .error _ =>
          match root.makeDirectory now mode place with
          | .error error => .error error
          | .ok root => makeDirectories now mode place rest root

def entriesAt (root : FileTree) (place : List String) :
    Except SystemError (List (String × FileTree)) :=
  match root.find place with
  | .ok (.directory _ entries) => .ok entries
  | .ok _ => .error .notDirectory
  | .error error => .error error

def read (root : FileTree) (place : List String) :
    Except SystemError (List UInt8) :=
  match root.find place with
  | .ok (.file _ content) => .ok content
  | .ok (.directory _ _) => .error .isDirectory
  | .ok _ => .ok []
  | .error error => .error error

/-- Makes `content` the bytes of the file at a place, or of a new one there. -/
def write (now : Int) (place : List String) (content : List UInt8)
    (root : FileTree) : Except SystemError FileTree :=
  match root.find place with
  | .ok (.file stamp _) =>
      root.modify (fun _ => .ok (.file { stamp with modified := some now } content))
        place
  | .ok (.directory _ _) => .error .isDirectory
  | .ok (.program _) => .error .denied
  | .ok (.device _) => .ok root
  | .error .noEntry => root.put now place (.file { modified := some now } content)
  | .error error => .error error

end FileTree

end PlanGuard
