import PlanGuard.Retry

/-!
# Rehearsals

A rehearsal plays plans and retries against a script instead of a machine.  The
script lists, for each command line, what the runner answers, and for each
question, what the planner answers.  The answers of one list are used up in
order, and the last one is used again when the others are gone.
-/

namespace PlanGuard

/-- Lists of answers by key; the key `*` serves for keys that have no list. -/
abbrev Script (α : Type) := List (String × List α)

namespace Script

variable {α : Type}

def takeNext : List α → Option (α × List α)
  | [] => none
  | [last] => some (last, [last])
  | next :: rest => some (next, rest)

/-- Takes the next answer from the list under exactly this key. -/
def take (key : String) : Script α → Option (Option α × Script α)
  | [] => none
  | (name, answers) :: rest =>
      if name = key then
        match takeNext answers with
        | none => some (none, (name, answers) :: rest)
        | some (answer, left) => some (some answer, (name, left) :: rest)
      else
        (take key rest).map fun (answer, rest) => (answer, (name, answers) :: rest)

def next (script : Script α) (key : String) : Option α × Script α :=
  match script.take key with
  | some found => found
  | none =>
      match script.take "*" with
      | some found => found
      | none => (none, script)

end Script

/-- What is left of the scripts. -/
structure Rehearsal where
  runner : Script Reply := []
  planner : Script Advice := []

namespace Rehearsal

def run : Runner Rehearsal := fun _ request rehearsal =>
  let (reply, script) := rehearsal.runner.next request.argv.render
  (reply.getD {}, { rehearsal with runner := script })

def plan : Planner Rehearsal := fun question rehearsal =>
  let (advice, script) := rehearsal.planner.next question.command
  (advice.getD {}, { rehearsal with planner := script })

inductive Action where
  | runPlan (plan : Plan)
  | runCommand (command : Command)
  | push (entry : Entry)
  | retry (settings : RetrySettings)
  | cancel
  /-- Starts afresh with nothing cancelled. -/
  | renew

structure Stage where
  executor : Executor := {}
  gate : Gate := {}
  journal : Journal := {}
  cancelled : Bool := false
  script : Rehearsal := {}

structure Scene where
  requests : List Request := []
  questions : List Question := []
  lines : List Line := []
  report : Option RetryReport := none
  /-- Whether the action was cancelled, at its end. -/
  cancelled : Bool := false
  journal : Journal := {}

def play (watched : Bool) (stage : Stage) : Action → Scene × Stage
  | .runPlan plan =>
      let course :=
        stage.executor.runPlan run watched plan stage.cancelled stage.script
      let journal := course.journal
      ({ requests := course.requests, lines := course.lines
         cancelled := course.cancelled, journal },
        { stage with journal, cancelled := course.cancelled, script := course.state })
  | .runCommand command =>
      let course :=
        stage.executor.runCommand run watched command stage.cancelled stage.script
      let journal := course.entries.foldl Journal.push stage.journal
      ({ requests := course.requests, lines := course.lines
         cancelled := course.cancelled, journal },
        { stage with journal, cancelled := course.cancelled, script := course.state })
  | .push entry =>
      let journal := stage.journal.push entry
      ({ cancelled := stage.cancelled, journal }, { stage with journal })
  | .retry settings =>
      let retry : Retry Rehearsal :=
        { executor := stage.executor, gate := stage.gate, settings
          runner := run, planner := plan }
      let done := retry.run stage.journal stage.cancelled stage.script
      ({ requests := Retry.requests done
         questions := done.tries.map (·.question)
         report := some done.report
         cancelled := done.cancelled, journal := done.journal },
        { stage with
          journal := done.journal, cancelled := done.cancelled
          script := done.state })
  | .cancel =>
      ({ cancelled := true, journal := stage.journal }, { stage with cancelled := true })
  | .renew =>
      ({ cancelled := stage.cancelled, journal := stage.journal },
        { stage with cancelled := false })

/-- Plays actions in order; each comes with whether it is watched. -/
def playAll : Stage → List (Action × Bool) → List Scene
  | _, [] => []
  | stage, (action, watched) :: rest =>
      let (scene, stage) := play watched stage action
      scene :: playAll stage rest

end Rehearsal

end PlanGuard
