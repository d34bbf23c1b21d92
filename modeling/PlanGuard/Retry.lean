import PlanGuard.Executor
import PlanGuard.Gate

/-!
# Fixing what failed

A retry walks the failing entries of a journal and asks a planner for a plan
that fixes each.  The planner is a parameter like the runner: it may answer
anything, late, or never.  A plan that comes in time is cut to its first
commands, passes the gate like any other, and is then run.  If all of it
succeeds, the failure is cleared; if not, its first failure takes the place of
the one recorded, so that the next attempt starts from there.
-/

namespace PlanGuard

/-- Whether and how often fixes are tried. -/
structure RetrySettings where
  enabled : Bool := false
  maxRetries : Nat := 2
  /-- The most commands that are taken of a plan; zero sets no limit. -/
  maxCommands : Nat := 20
  /-- The limit for one answer in seconds; zero stands for the default. -/
  fixTimeoutSeconds : Nat := 30
  deriving DecidableEq

namespace RetrySettings

def fixTimeout (settings : RetrySettings) : Duration :=
  .ofSeconds (orDefault 30 settings.fixTimeoutSeconds)

def isActive (settings : RetrySettings) : Bool :=
  settings.enabled && 0 < settings.maxRetries

end RetrySettings

/-- What a planner is asked: a command line, its output, and the attempt. -/
structure Question where
  command : String
  output : String
  attempt : Nat
  deriving DecidableEq

/-- What a planner does with a question. -/
structure Advice where
  /-- The run is cancelled while the question is with the planner. -/
  cancels : Bool := false
  /-- When the answer comes; `none` if it never does. -/
  delay : Option Duration := some .zero
  /-- The plan, or why there is none. -/
  answer : Except String Plan := .ok {}

abbrev Planner (σ : Type) := Question → σ → Advice × σ

inductive PlannerFailure where
  | refused (reason : String)
  | late (limit : Duration)
  | cancelled
  deriving DecidableEq

namespace PlannerFailure

def message : PlannerFailure → String
  | .refused reason => "fix planner error: " ++ reason
  | .late limit => s!"fix generation timed out after {limit.seconds}s"
  | .cancelled => "cancelled"

end PlannerFailure

namespace Advice

/--
What becomes of a question within a time limit.  An answer that is there at
once is taken even if the run is cancelled with it.
-/
def resolve (limit : Duration) (advice : Advice) : Except PlannerFailure Plan :=
  let waits := advice.delay != some .zero
  if advice.cancels && waits then .error .cancelled
  else
    match advice.delay with
    | none => .error (.late limit)
    | some delay =>
        if limit.toNanos < delay.toNanos then .error (.late limit)
        else
          match advice.answer with
          | .ok plan => .ok plan
          | .error reason => .error (.refused reason)

end Advice

inductive Fate where
  /-- No plan came, or an empty one. -/
  | unavailable
  | rejected (violation : Violation)
  /-- The plan was run, which led to this journal and these exchanges. -/
  | ran (plan : Plan) (fix : Journal) (exchanges : List Exchange)

namespace Fate

def fix? : Fate → Option Journal
  | .ran _ fix _ => some fix
  | _ => none

def exchanges : Fate → List Exchange
  | .ran _ _ exchanges => exchanges
  | _ => []

end Fate

/-- One question about one entry, and what became of it. -/
structure Try where
  position : Nat
  /-- The entry as it stood when the question was asked. -/
  entry : Entry
  question : Question
  advice : Advice
  fate : Fate

structure RetryReport where
  attempts : Nat := 0
  requested : Nat := 0
  applied : Nat := 0
  failed : Nat := 0
  rejected : Nat := 0
  unavailable : Nat := 0
  remaining : Nat := 0
  deriving DecidableEq

namespace RetryReport

def count (report : RetryReport) (fate : Fate) : RetryReport :=
  let report := { report with requested := report.requested + 1 }
  match fate with
  | .unavailable => { report with unavailable := report.unavailable + 1 }
  | .rejected _ => { report with rejected := report.rejected + 1 }
  | .ran _ fix _ =>
      if fix.isSuccess then { report with applied := report.applied + 1 }
      else { report with failed := report.failed + 1 }

end RetryReport

structure RetryRun (σ : Type) where
  journal : Journal
  report : RetryReport := {}
  /-- The questions asked so far, in order. -/
  tries : List Try := []
  cancelled : Bool
  state : σ

/--
Everything that a retry works with.  The run may be cancelled at any moment: by
the planner or the runner, which stands also for whoever cancels between two
questions or requests, or in the short time between the start of an attempt and
its first question, which `interrupts` tells from the attempt and the state.
-/
structure Retry (σ : Type) where
  executor : Executor
  gate : Gate
  settings : RetrySettings
  runner : Runner σ
  planner : Planner σ
  interrupts : (attempt : Nat) → σ → Bool := fun _ _ => false

def Entry.complaint (entry : Entry) : String :=
  if Text.allBlank entry.output then
    match entry.failure with
    | some failure => failure.message
    | none => ""
  else entry.output

def Entry.question (entry : Entry) (attempt : Nat) : Question :=
  { command := entry.commandLine, output := entry.complaint, attempt }

/-- Writes what a fix has led to into the journal. -/
def Journal.mergeFix (journal : Journal) (position : Nat) (fix : Journal) :
    Journal :=
  let merged :=
    if fix.isSuccess then journal.markFixed position
    else
      match fix.firstFailure? with
      | none => journal
      | some first =>
          match first.failure with
          | none => journal
          | some failure => journal.recordFixFailure position first.output failure
  merged.appendFixes position fix

/-- Writes a try into the journal; one that ran nothing leaves no mark. -/
def Journal.absorb (journal : Journal) (tried : Try) : Journal :=
  match tried.fate.fix? with
  | some fix => journal.mergeFix tried.position fix
  | none => journal

namespace Retry

variable {σ : Type}

/-- Decides about an answered question and runs the plan if it may run. -/
def pursue (retry : Retry σ) (advice : Advice) (cancelled : Bool) (state : σ) :
    Fate × Bool × σ :=
  match advice.resolve retry.settings.fixTimeout with
  | .error _ => (.unavailable, cancelled, state)
  | .ok plan =>
      if plan.isEmpty then (.unavailable, cancelled, state)
      else
        let plan := plan.truncate retry.settings.maxCommands
        match retry.gate.violation? plan with
        | some violation => (.rejected violation, cancelled, state)
        | none =>
            let course :=
              retry.executor.runPlan retry.runner false plan cancelled state
            (.ran plan course.journal course.exchanges, course.cancelled,
              course.state)

def fixOne (retry : Retry σ) (attempt position : Nat) (run : RetryRun σ) :
    RetryRun σ :=
  match run.journal.entries[position]? with
  | none => { run with report := run.report.count .unavailable }
  | some entry =>
      let question := entry.question attempt
      let (advice, state) := retry.planner question run.state
      let (fate, cancelled, state) :=
        retry.pursue advice (run.cancelled || advice.cancels) state
      let tried : Try := { position, entry, question, advice, fate }
      { journal := run.journal.absorb tried
        report := run.report.count fate
        tries := run.tries ++ [tried]
        cancelled, state }

/-- Goes through failing positions until the run is cancelled. -/
def fixEach (retry : Retry σ) (attempt : Nat) :
    List Nat → RetryRun σ → RetryRun σ
  | [], run => run
  | position :: rest, run =>
      if run.cancelled then run
      else retry.fixEach attempt rest (retry.fixOne attempt position run)

def startAttempt (retry : Retry σ) (attempt : Nat) (run : RetryRun σ) :
    RetryRun σ :=
  { run with
    report := { run.report with attempts := attempt }
    cancelled := run.cancelled || retry.interrupts attempt run.state }

/-- Starts attempts while something fails, at most `left` of them. -/
def attempts (retry : Retry σ) : (left attempt : Nat) → RetryRun σ → RetryRun σ
  | 0, _, run => run
  | left + 1, attempt, run =>
      if run.journal.isSuccess || run.cancelled then run
      else
        retry.attempts left (attempt + 1)
          (retry.fixEach attempt run.journal.failing
            (retry.startAttempt attempt run))

def run (retry : Retry σ) (journal : Journal) (cancelled : Bool) (state : σ) :
    RetryRun σ :=
  let start : RetryRun σ := { journal, cancelled, state }
  let done :=
    if retry.settings.isActive then
      retry.attempts retry.settings.maxRetries 1 start
    else start
  { done with report := { done.report with remaining := done.journal.failed } }

def requests (run : RetryRun σ) : List Request :=
  run.tries.flatMap fun tried => tried.fate.exchanges.map (·.request)

end Retry

end PlanGuard
