import PlanGuard.Sandbox.Scratch
import PlanGuard.Sandbox.Watch

/-!
# Running commands in a sandbox

A command that is refused touches nothing.  Any other runs in the scratch
directory after that was cleaned, as the leader of a group, and under a watch.
-/

namespace PlanGuard.Sandbox

/-- The first sample is taken when a child has had the time to start. -/
def firstSample : Nat := 2000000

/-- The breach that the first sample finds, if use is sampled at all. -/
def Limits.stops (limits : Limits) (life : Life) : List (Nat × Stop) :=
  match limits.sample? (some life.usage) with
  | some reason => [(firstSample, .breached reason)]
  | none => []

/-- What a stop is to the watch over a child, with what the tasks do about it. -/
def interventions (usage : Usage) : Stop → List Event
  | .expired => [.expires, .guard, .guard]
  | .cancelled => [.cancels, .waiter true, .waiter true]
  | .breached _ => [.samples (some usage), .guard, .guard]

/-- What befell a child, in order, until the waiter has told how it ended. -/
def events (seen : Observation) : List Event :=
  seen.stop.toList.flatMap (interventions seen.life.usage) ++
    .ends (.ok seen.life.ending) :: List.replicate 4 (.waiter false)

def timeLimit (sandbox : Sandbox) (request : Request) : Duration :=
  request.timeout.shorter sandbox.limits.maxExecution

def watchOver (sandbox : Sandbox) (launch : Launch) (trigger : Trigger)
    (watched : Bool) (request : Request) (child : Child) (state : State) :
    Reply × State :=
  let limit := sandbox.timeLimit request
  let stops (life : Life) : List (Nat × Stop) :=
    sandbox.limits.stops life ++ trigger.stops watched life
  match observe launch .group limit.toNanos stops child state.machine with
  | .error error => (request.notStarted error state.machine, state)
  | .ok seen =>
      let failure := (Watch.after sandbox.limits limit (events seen)).verdict
      (request.answer watched trigger state.machine seen.life failure,
        { state with machine := seen.machine })

/--
What is done for a request before a child is started for it: the child, at home in
the scratch directory, or the failure that the request is answered with.
-/
def ready (sandbox : Sandbox) (request : Request) (state : State) :
    Except Failure Child × State :=
  match refusal? request.argv with
  | some refusal => (.error (.rejected refusal.reason), state)
  | none =>
      match sandbox.build request.argv request.path (cleanup state).2 with
      | (.error trouble, state) => (.error (.io trouble.message), state)
      | (.ok child, state) => (.ok child, state)

def runner (sandbox : Sandbox) (launch : Launch) (trigger : Trigger) :
    Runner State := fun watched request state =>
  match sandbox.ready request state with
  | (.error failure, state) => (request.refuse failure state.machine, state)
  | (.ok child, state) =>
      sandbox.watchOver launch trigger watched request child state

end PlanGuard.Sandbox
