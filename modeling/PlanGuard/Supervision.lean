import PlanGuard.Collection
import PlanGuard.Executor
import PlanGuard.Machine.Child

/-!
# Running a child under supervision

A child runs until it ends, its time is over, or something else stops it.
`observe` finds out which comes first and tells the life that the child has had
until then; `direct` is the runner that starts each request as such a child.
-/

namespace PlanGuard

/-- When the caller cancels a run that is under way. -/
inductive Trigger where
  | never
  | atOnce
  /-- As soon as a line with this text is shown. -/
  | onLine (text : String)
  deriving DecidableEq

/-- What puts an early end to a child. -/
inductive Stop where
  | expired
  | cancelled
  | breached (reason : String)
  deriving DecidableEq

namespace Life

/-- The moment of the first write that completes a line with this text. -/
def momentOf? (text : String) (life : Life) : Option Nat :=
  go {} life.writes
where
  go (pipes : Pipes) : List Write → Option Nat
    | [] => none
    | write :: rest =>
        let pipes := { pipes with arrived := [] }.write write.stream write.bytes
        if pipes.arrived.any fun chunk => chunk.line.text == text then
          some write.moment
        else go pipes rest

end Life

namespace Trigger

/-- When a caller with this trigger cancels the run of a child. -/
def moment? (trigger : Trigger) (watched : Bool) (life : Life) : Option Nat :=
  match trigger with
  | .never => none
  | .atOnce => some 0
  | .onLine text => if watched then life.momentOf? text else none

end Trigger

structure Observation where
  life : Life
  /-- What ended it, if it did not end by itself. -/
  stop : Option Stop
  /-- The machine after it. -/
  machine : Machine

/-- The first of some moments, of equal ones the one that stands first. -/
def earliest? : List (Nat × Stop) → Option (Nat × Stop)
  | [] => none
  | first :: rest =>
      match earliest? rest with
      | none => some first
      | some best => if best.1 < first.1 then some best else some first

def observe (launch : Launch) (reach : Reach) (limit : Nat)
    (stops : Life → List (Nat × Stop)) (child : Child) (machine : Machine) :
    Except SystemError Observation :=
  match launch reach limit child machine with
  | .error error => .error error
  | .ok (life, after) =>
      match earliest? ((stops life).filter fun stop => stop.1 < life.span) with
      | none =>
          let stop := if life.cut then some .expired else none
          .ok { life, stop, machine := after }
      | some (moment, stop) =>
          match launch reach moment child machine with
          | .error error => .error error
          | .ok (life, after) =>
              let stop := if life.cut then some stop else none
              .ok { life, stop, machine := after }

/-- The stop of a run that is cancelled, if its trigger goes off. -/
def Trigger.stops (trigger : Trigger) (watched : Bool) (life : Life) :
    List (Nat × Stop) :=
  match trigger.moment? watched life with
  | some moment => [(moment, .cancelled)]
  | none => []

namespace Request

def refuse (_request : Request) (failure : Failure) (machine : Machine) : Reply :=
  { failure := some failure, startedAt := machine.moment }

def notStarted (request : Request) (error : SystemError) (machine : Machine) :
    Reply :=
  request.refuse (.spawn (request.argv.head?.getD "") error.message) machine

def answer (request : Request) (watched : Bool) (trigger : Trigger)
    (machine : Machine) (life : Life) (failure : Option Failure) : Reply :=
  let capture :=
    (Collection.ofArrival watched request.maxOutputBytes life.chunks life.ending).capture
  { output := capture.buffer.finish
    truncated := capture.buffer.truncated
    failure
    elapsed := .ofNanos life.span
    startedAt := machine.moment
    lines := capture.lines
    cancels :=
      match trigger with
      | .never => false
      | .atOnce => true
      | .onLine text => capture.lines.any fun line => line.text == text }

end Request

namespace Observation

/-- Why a child failed that was stopped for a reason or ended by itself. -/
def failure? (observation : Observation) (limit : Duration) : Option Failure :=
  match observation.stop with
  | none => observation.life.ending.failure?
  | some .expired => some (.timeout limit)
  | some .cancelled => some .cancelled
  | some (.breached reason) => some (.resourceLimit reason)

end Observation

/-- The runner that starts every request as a child, with nothing in between. -/
def direct (launch : Launch) (trigger : Trigger) : Runner Machine :=
  fun watched request machine =>
    match Child.ofArgv? request.path request.argv with
    | none => (request.refuse .emptyCommand machine, machine)
    | some child =>
        match observe launch .leader request.timeout.toNanos
            (trigger.stops watched) child machine with
        | .error error => (request.notStarted error machine, machine)
        | .ok seen =>
            (request.answer watched trigger machine seen.life
              (seen.failure? request.timeout), seen.machine)

end PlanGuard
