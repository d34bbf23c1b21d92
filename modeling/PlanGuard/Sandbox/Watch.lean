import PlanGuard.Sandbox.Limits
import PlanGuard.Supervision

/-!
# The watch over a sandboxed child

Two tasks look after a child that was started.  The guard waits for the time limit
and samples what the child uses; when it sees a violation, it records it and then
kills the group of the child.  The waiter waits for the child to end, or kills its
group if the caller cancels first.  Once the child was waited for it kills what is
left of the group, stops the guard, and tells how the child ended: if a violation is
recorded then it tells the violation, whatever else has happened.

The tasks take turns in any order, and what they wait for can come about at any
moment.  A `Watch` takes one `Event` after another, something that comes about or the
next step of a task; a task that has to wait, or is done, stays where it is.
-/

namespace PlanGuard.Sandbox

inductive Event where
  /-- The child ends, or cannot be waited for; the first such event counts. -/
  | ends (outcome : Except String Ending)
  /-- The caller cancels. -/
  | cancels
  /-- The time limit is reached. -/
  | expires
  /-- A sample is taken of what the child uses; there is none if it is gone. -/
  | samples (usage : Option Usage)
  /-- The guard takes its next step. -/
  | guard
  /--
  The waiter takes its next step.  If both the end of the child and a cancellation
  are there for it to take then it takes the cancellation, if `heeding`.
  -/
  | waiter (heeding : Bool)

/-- What a group is killed for. -/
inductive Cause where
  | violation
  | cancellation
  /-- Nothing that the child has started is to be left. -/
  | remains
  deriving DecidableEq

inductive Deed where
  | recorded (violation : Failure)
  | killedGroup (cause : Cause)
  /-- A cancellation was taken before the end of the child. -/
  | heeded
  /-- The child was waited for, with what that has given. -/
  | waited (outcome : Except String Ending)
  | stoppedGuard
  | returned (answer : Except Failure Ending)

inductive Guard where
  | watching
  /-- It has seen a violation, which is to be recorded. -/
  | noticed (violation : Failure)
  /-- The violation is recorded, and the group is to be killed. -/
  | recorded
  | finished

/-- A guard is stopped while it watches; else it does first what it has begun. -/
def Guard.stop : Guard → Guard
  | .watching => .finished
  | guard => guard

/-- How far the waiter is, with what it will tell unless a violation is recorded. -/
inductive Waiter where
  | waiting
  /-- A cancellation was taken; the group is to be killed. -/
  | heeding
  /-- The group was killed, and the child is to be waited for. -/
  | reaping
  /-- The child was waited for; what is left of its group is to be killed. -/
  | reaped (result : Except Failure Ending)
  /-- Nothing is left of the group, and the guard is to be stopped. -/
  | swept (result : Except Failure Ending)
  /-- The guard is stopped; what it has recorded is to be looked at. -/
  | stopped (result : Except Failure Ending)
  | returned (answer : Except Failure Ending)

structure Watch where
  limits : Limits
  /-- The time limit. -/
  limit : Duration
  guard : Guard := .watching
  waiter : Waiter := .waiting
  /-- What the guard has recorded, for the waiter to see. -/
  violation : Option Failure := none
  cancelled : Bool := false
  /-- What waiting for the child gives, once there is something. -/
  outcome : Option (Except String Ending) := none
  /-- What was done, in order. -/
  deeds : List Deed := []

namespace Watch

/-- The watch over a child that never started: there is nothing to guard. -/
def idle (limits : Limits) (limit : Duration) : Watch :=
  { limits, limit, guard := .finished }

def does (watch : Watch) (deed : Deed) : Watch :=
  { watch with deeds := watch.deeds ++ [deed] }

/-- A guard that watches sees a violation, if there is one. -/
def notice (watch : Watch) (violation? : Option Failure) : Watch :=
  match watch.guard, violation? with
  | .watching, some violation => { watch with guard := .noticed violation }
  | _, _ => watch

def record (watch : Watch) (violation : Failure) : Watch :=
  match watch.violation with
  | some _ => watch
  | none => { watch with violation := some violation }.does (.recorded violation)

def guardStep (watch : Watch) : Watch :=
  match watch.guard with
  | .watching => watch
  | .noticed violation => { watch.record violation with guard := .recorded }
  | .recorded => { watch with guard := .finished }.does (.killedGroup .violation)
  | .finished => watch

/-- The child is waited for, if it has ended, and `result` is to be told. -/
def reap (watch : Watch) (result : Except String Ending → Except Failure Ending) : Watch :=
  match watch.outcome with
  | none => watch
  | some outcome =>
      { watch with waiter := .reaped (result outcome) }.does (.waited outcome)

/-- What is told after all: the violation, if there is one. -/
def answer (watch : Watch) (result : Except Failure Ending) : Except Failure Ending :=
  match watch.violation with
  | some violation => .error violation
  | none => result

def waiterStep (watch : Watch) (heeding : Bool) : Watch :=
  match watch.waiter with
  | .waiting =>
      if watch.cancelled && (heeding || watch.outcome.isNone) then
        { watch with waiter := .heeding }.does .heeded
      else watch.reap (·.mapError .io)
  | .heeding => { watch with waiter := .reaping }.does (.killedGroup .cancellation)
  | .reaping => watch.reap fun _ => .error .cancelled
  | .reaped result =>
      { watch with waiter := .swept result }.does (.killedGroup .remains)
  | .swept result =>
      { watch with guard := watch.guard.stop, waiter := .stopped result }.does .stoppedGuard
  | .stopped result =>
      { watch with waiter := .returned (watch.answer result) }.does
        (.returned (watch.answer result))
  | .returned _ => watch

def step (watch : Watch) : Event → Watch
  | .ends outcome => { watch with outcome := watch.outcome.or (some outcome) }
  | .cancels => { watch with cancelled := true }
  | .expires => watch.notice (some (.timeout watch.limit))
  | .samples usage => watch.notice ((watch.limits.sample? usage).map .resourceLimit)
  | .guard => watch.guardStep
  | .waiter heeding => watch.waiterStep heeding

def after (limits : Limits) (limit : Duration) (events : List Event) : Watch :=
  events.foldl step { limits, limit }

def answer? (watch : Watch) : Option (Except Failure Ending) :=
  match watch.waiter with
  | .returned answer => some answer
  | _ => none

def verdict (watch : Watch) : Option Failure :=
  match watch.answer? with
  | some (.error failure) => some failure
  | some (.ok ending) => ending.failure?
  | none => none

end Watch

end PlanGuard.Sandbox
