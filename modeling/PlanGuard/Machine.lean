import PlanGuard.Machine.FileTree
import PlanGuard.Time

/-!
# Machines

A `Machine` is what commands act on: files, a clock, and the directory in which
this program was started.  Paths are read from that directory.
-/

namespace PlanGuard

/-- What the system is asked to do about a directory. -/
inductive Call where
  | make
  | setMode

structure Machine where
  files : FileTree := .directory {} []
  /-- The time in nanoseconds since the start of 1970. -/
  now : Int := 0
  /-- The place of the directory in which this program was started. -/
  directory : List String := []
  /-- What the system refuses at a place where nothing is in the way: a disk is full, say. -/
  refuses : Call → List String → Option SystemError := fun _ _ => none

namespace Machine

def moment (machine : Machine) : Timestamp :=
  { seconds := machine.now.fdiv 1000000000
    nanos := (machine.now.fmod 1000000000).toNat }

def resolve (machine : Machine) (path : String) : Except SystemError (List String) :=
  machine.files.resolve machine.directory path

def entries (machine : Machine) (path : String) :
    Except SystemError (List (String × FileTree)) := do
  machine.files.entriesAt (← machine.resolve path)

/-- Changes entries of the directory at a path or takes them away. -/
def siftEntries (machine : Machine) (path : String)
    (sift : String × FileTree → Option (String × FileTree)) :
    Except SystemError Machine := do
  let place ← machine.resolve path
  let files ← machine.files.modify (FileTree.siftEntries machine.now sift) place
  pure { machine with files }

def start (machine : Machine) (path : String) : List String :=
  if path.startsWith "/" then [] else machine.directory

/-- Makes a directory where steps lead to, if nothing is there yet. -/
def makeDirectory (machine : Machine) (start steps : List String) :
    Except SystemError Machine := do
  let place ← machine.files.walk start steps
  let files ← machine.files.makeDirectory machine.now 0o755 place
  match machine.refuses .make place with
  | some error => .error error
  | none => .ok { machine with files }

def isDirectory (machine : Machine) (start steps : List String) : Bool :=
  match machine.files.walk start steps with
  | .error _ => false
  | .ok place =>
      match machine.files.find place with
      | .error _ => false
      | .ok tree => tree.isDirectory

/-- Makes a directory; one that is there already will do. -/
def ensureDirectory (machine : Machine) (start steps : List String) :
    Except SystemError Machine :=
  match machine.makeDirectory start steps with
  | .ok machine => .ok machine
  | .error error =>
      if machine.isDirectory start steps then .ok machine else .error error

/--
Makes the directory that steps lead to, given with the last one first.  If the way to it
is missing, that is made before.  What was made stays, also if the rest fails.
-/
def makeDirectories (start : List String) :
    (back : List String) → Machine → Except SystemError Unit × Machine
  | [], machine => (.ok (), machine)
  | step :: back, machine =>
      let steps := (step :: back).reverse
      match machine.ensureDirectory start steps with
      | .ok machine => (.ok (), machine)
      | .error .noEntry =>
          match makeDirectories start back machine with
          | (.error error, machine) => (.error error, machine)
          | (.ok _, machine) =>
              match machine.ensureDirectory start steps with
              | .ok machine => (.ok (), machine)
              | .error error => (.error error, machine)
      | .error error => (.error error, machine)

def setMode (machine : Machine) (mode : Nat) (path : String) :
    Except SystemError Machine := do
  let place ← machine.resolve path
  let files ← machine.files.modify (fun tree => .ok (tree.withMode mode)) place
  match machine.refuses .setMode place with
  | some error => .error error
  | none => .ok { machine with files }

/--
Makes a directory with what is missing on the way to it, and takes it for the owner only.
There are two ways to fail, and after both of them what was made stays.
-/
def makePrivate (machine : Machine) (path : String) :
    Except SystemError Unit × Machine :=
  match makeDirectories (machine.start path) (FileTree.steps path).reverse machine with
  | (.error error, machine) => (.error error, machine)
  | (.ok _, machine) =>
      match machine.setMode 0o700 path with
      | .error error => (.error error, machine)
      | .ok machine => (.ok (), machine)

def readText? (machine : Machine) (path : String) : Option String := do
  let place ← (machine.resolve path).toOption
  let content ← (machine.files.read place).toOption
  if path.endsWith "/" then none
  else String.fromUTF8? (ByteArray.mk content.toArray)

end Machine

end PlanGuard
