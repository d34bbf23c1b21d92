import PlanGuard.Machine.Child
import PlanGuard.Sandbox.Limits
import PlanGuard.Sandbox.Vetting

/-!
# The scratch directory of a sandbox

Each sandbox has one directory in which its commands run and which is their
home.  It is made when it is first needed, never before, and stays the same from
then on; if it cannot be made, the next command that needs it tries again.
What has lain in it for more than an hour is removed before each command.
-/

namespace PlanGuard

/-- A sandbox: where its scratch directory goes, and what limits it sets. -/
structure Sandbox where
  root : String
  /-- Tells the scratch directory from those of other sandboxes. -/
  token : String
  limits : Sandbox.Limits := {}
  /-- The token of each attempt to make the directory, counted from zero. -/
  tokens : Nat → String := fun _ => token

namespace Sandbox

/-- The machine, and the path of the scratch directory once there is one. -/
structure State where
  scratch : Option String := none
  /-- How often it was tried to make the directory. -/
  attempts : Nat := 0
  machine : Machine

inductive Trouble where
  | refused (refusal : Refusal)
  | setup (path : String) (error : SystemError)
  | system (error : SystemError)
  deriving DecidableEq

namespace Trouble

def message : Trouble → String
  | .refused refusal => refusal.message
  | .setup path error => s!"sandbox setup failed for {path}: {error.message}"
  | .system error => "io error: " ++ error.message

end Trouble

/-- A name below a directory; nothing is put before it if that has no path. -/
def below (directory name : String) : String :=
  if directory = "" || directory.endsWith "/" then directory ++ name
  else directory ++ "/" ++ name

def scratchPath (sandbox : Sandbox) (attempt : Nat) : String :=
  below sandbox.root ("wrtpilot-sandbox-" ++ sandbox.tokens attempt)

def scratchDirectory (sandbox : Sandbox) (state : State) :
    Except Trouble String × State :=
  match state.scratch with
  | some path => (.ok path, state)
  | none =>
      let path := sandbox.scratchPath state.attempts
      let state := { state with attempts := state.attempts + 1 }
      match state.machine.makePrivate path with
      | (.error error, machine) => (.error (.setup path error), { state with machine })
      | (.ok _, machine) => (.ok path, { state with scratch := some path, machine })

def build (sandbox : Sandbox) (argv : Argv) (path : String) (state : State) :
    Except Trouble Child × State :=
  match sandbox.scratchDirectory state with
  | (.error trouble, state) => (.error trouble, state)
  | (.ok scratch, state) =>
      match Child.ofArgv? path argv with
      | none => (.error (.refused .emptyCommand), state)
      | some child => (.ok (child.atHome scratch), state)

/-- The greatest age of what is kept, in nanoseconds: an hour. -/
def keptFor : Int := 3600000000000

/-- Last changed more than an hour ago; not so if that cannot be told. -/
def isStale (now : Int) (tree : FileTree) : Bool :=
  match tree.stamp.modified with
  | some modified => keptFor < now - modified
  | none => false

/-- What a cleanup at this time leaves of an entry. -/
def sweep (now : Int) (entry : String × FileTree) : Option (String × FileTree) :=
  if isStale now entry.2 then
    (entry.2.remnant? now).map fun left => (entry.1, left)
  else some entry

def cleanup (state : State) : Except SystemError Nat × State :=
  match state.scratch with
  | none => (.ok 0, state)
  | some path =>
      let now := state.machine.now
      match state.machine.entries path with
      | .error error => (.error error, state)
      | .ok entries =>
          let removed := entries.countP fun entry => (sweep now entry).isNone
          match state.machine.siftEntries path (sweep now) with
          | .error error => (.error error, state)
          | .ok machine => (.ok removed, { state with machine })

end Sandbox

end PlanGuard
