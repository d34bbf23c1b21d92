import PlanGuard.Capture
import PlanGuard.Failure
import PlanGuard.Machine
import PlanGuard.Number.Binary

/-!
# Children

A `Child` is a program about to be started, with all that it is given.  How it
behaves is up to the machine: a `Launch` tells the life of a child that is left
alone up to a time limit, or why it could not be started.
-/

namespace PlanGuard

structure Child where
  program : String
  arguments : List String
  /-- The whole environment, in the order of its names. -/
  environment : List (String × String)
  /-- The directory it starts in; that of this program if there is none. -/
  directory : Option String := none

namespace Child

/-- A child that is given a search path and nothing else. -/
def ofArgv? (path : String) : List String → Option Child
  | [] => none
  | program :: arguments =>
      some { program, arguments, environment := [("PATH", path)] }

/-- The same child with a directory that is also its home. -/
def atHome (child : Child) (home : String) : Child :=
  { child with
    environment := ("HOME", home) :: child.environment, directory := some home }

end Child

inductive Ending where
  | exited (code : Nat)
  | killed (signal : Nat)
  deriving DecidableEq

/-- An exit with zero is a success, and nothing else is. -/
def Ending.failure? : Ending → Option Failure
  | .exited 0 => none
  | .exited code => some (.exit code)
  | .killed signal => some (.signal signal)

structure Usage where
  memoryBytes : Nat
  cpuPercent : Number.Binary

/-- Bytes that a child writes, so many nanoseconds after its start. -/
structure Write where
  moment : Nat
  stream : Stream
  bytes : List UInt8

/-- What a child does from its start to its end. -/
structure Life where
  /-- Everything written, in order. -/
  writes : List Write
  ending : Ending
  /-- How long it lived, in nanoseconds. -/
  span : Nat
  /-- It was killed because its time was over. -/
  cut : Bool
  /-- What it uses while it waits. -/
  usage : Usage

namespace Life

/-- The chunks of output in the order of their arrival. -/
def chunks (life : Life) : List Chunk :=
  (life.writes.foldl (fun pipes write => pipes.write write.stream write.bytes)
    ({} : Pipes)).close

end Life

/-- How much of a process tree a kill reaches. -/
inductive Reach where
  | leader
  | group
  deriving DecidableEq

/--
How a machine runs a child.  The child is killed when the limit, in nanoseconds
after its start, has passed; with `group`, nothing that it started survives it.
-/
abbrev Launch :=
  Reach → (limit : Nat) → Child → Machine → Except SystemError (Life × Machine)

end PlanGuard
