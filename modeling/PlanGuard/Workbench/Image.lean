import PlanGuard.Machine
import PlanGuard.Text.Utf8

/-!
# Finding programs

A program named with a slash is at that path; any other is looked for in the
directories of the search path, in their order.
-/

namespace PlanGuard.Workbench

/-- What is run when this is started, unless it cannot be. -/
def executable (tree : FileTree) : Except SystemError FileTree :=
  match tree with
  | .program _ => .ok tree
  | .file _ _ => if tree.isExecutable then .ok tree else .error .denied
  | .directory _ _ | .device _ => .error .denied

def imageAt (files : FileTree) (directory : List String) (path : String) :
    Except SystemError FileTree := do
  let tree ← files.find (← files.resolve directory path)
  executable tree

/-- Looks in one directory after another; a refusal is only told at the end. -/
def imageIn (files : FileTree) (directory : List String) (program : String) :
    (refused : Option SystemError) → List String → Except SystemError FileTree
  | refused, [] => .error (refused.getD .noEntry)
  | refused, first :: rest =>
      let path := (if first = "" then "." else first) ++ "/" ++ program
      match imageAt files directory path with
      | .ok tree => .ok tree
      | .error .denied => imageIn files directory program (some .denied) rest
      | .error _ => imageIn files directory program refused rest

/-- A path with more bytes than a path can have, or a name in it with too many. -/
def isTooLong (path : String) : Bool :=
  4096 ≤ path.utf8ByteSize ||
    (FileTree.steps path).any fun step => 255 < step.utf8ByteSize

def image (files : FileTree) (directory : List String) (search : Option String)
    (program : String) : Except SystemError FileTree :=
  if program = "" then .error .noEntry
  else if isTooLong program then .error .nameTooLong
  else if program.contains '/' then imageAt files directory program
  else imageIn files directory program none
    ((search.getD "/bin:/usr/bin").splitOn ":")

/-- The program that a script names in its first line, with an argument. -/
def interpreter? (content : List UInt8) : Option (List String) :=
  match content with
  | 35 :: 33 :: rest =>
      match ((Text.Utf8.decode (rest.takeWhile (· != 10))).splitOn " ").filter
          (· != "") with
      | [] => none
      | words => some words
  | _ => none

end PlanGuard.Workbench
