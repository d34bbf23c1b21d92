import PlanGuard.Plan
import PlanGuard.Journal
import PlanGuard.Capture
import PlanGuard.Text.Blank

/-!
# Running the commands of a plan

An `Executor` turns each command into a request and hands it to a runner.  The
runner is a parameter: it may answer anything, keep any state, and cancel the
run while a request is with it.  A command that fails never stops the others; a
cancelled run starts nothing more, but still records an entry for each command.
-/

namespace PlanGuard

structure ExecutorSettings where
  /-- The limit for one command in seconds; zero stands for the default. -/
  timeoutSeconds : Nat := 30
  /-- The most bytes of output that are kept of one command. -/
  maxOutputBytes : Nat := 524288
  /-- What is put before a command that needs root. -/
  elevation : Option String := none
  /-- The search path where the environment has none. -/
  fallbackPath : String := "/usr/sbin:/usr/bin:/sbin:/bin"
  deriving DecidableEq

/-- A number of seconds in which zero stands for the default. -/
def orDefault (default seconds : Nat) : Nat :=
  if seconds = 0 then default else seconds

namespace ExecutorSettings

def timeout (settings : ExecutorSettings) : Duration :=
  .ofSeconds (orDefault 30 settings.timeoutSeconds)

/-- The words of the elevation prefix; quotes have no meaning in it. -/
def elevationTokens (settings : ExecutorSettings) : List String :=
  match settings.elevation with
  | none => []
  | some prefixText => Text.words prefixText

/-- The search path for commands, given that of the environment. -/
def searchPath (settings : ExecutorSettings) (environment : Option String) :
    String :=
  match environment with
  | none => settings.fallbackPath
  | some path => if path = "" then settings.fallbackPath else path

/-- The argv to run: the command's own, after the prefix if it needs root. -/
def prepare (settings : ExecutorSettings) (command : Command) : Argv :=
  if command.needsRoot then settings.elevationTokens ++ command.argv
  else command.argv

end ExecutorSettings

structure Request where
  argv : Argv
  path : String
  timeout : Duration
  maxOutputBytes : Nat
  deriving DecidableEq

structure Reply where
  output : String := ""
  truncated : Bool := false
  failure : Option Failure := none
  elapsed : Duration := .zero
  startedAt : Timestamp := {}
  /-- The lines of output, for whoever watches. -/
  lines : List Line := []
  /-- The run was cancelled while the request was with the runner. -/
  cancels : Bool := false

/-- A request and what the runner answered to it. -/
structure Exchange where
  request : Request
  reply : Reply

/--
A runner with a state of type `σ`.  It is told whether anybody watches the
output, what to run, and its state.
-/
abbrev Runner (σ : Type) := (watched : Bool) → Request → σ → Reply × σ

structure Course (σ : Type) where
  entries : List Entry
  /-- What was handed to the runner, in order. -/
  exchanges : List Exchange
  /-- The lines that a watcher has seen. -/
  lines : List Line
  cancelled : Bool
  state : σ

namespace Course

def start {σ : Type} (cancelled : Bool) (state : σ) : Course σ :=
  ⟨[], [], [], cancelled, state⟩

def andThen {σ : Type} (first second : Course σ) : Course σ :=
  { entries := first.entries ++ second.entries
    exchanges := first.exchanges ++ second.exchanges
    lines := first.lines ++ second.lines
    cancelled := second.cancelled
    state := second.state }

def journal {σ : Type} (course : Course σ) : Journal :=
  .ofEntries course.entries

def requests {σ : Type} (course : Course σ) : List Request :=
  course.exchanges.map (·.request)

end Course

/-- Settings together with the search path of the environment, if it has one. -/
structure Executor where
  settings : ExecutorSettings := {}
  environmentPath : Option String := none

namespace Executor

def request (executor : Executor) (argv : Argv) : Request :=
  { argv
    path := executor.settings.searchPath executor.environmentPath
    timeout := executor.settings.timeout
    maxOutputBytes := executor.settings.maxOutputBytes }

def entry (index : Nat) (argv : Argv) (reply : Reply) : Entry :=
  { index, argv
    output := reply.output
    failure := reply.failure
    elapsed := reply.elapsed
    truncated := reply.truncated
    startedAt := reply.startedAt }

variable {σ : Type}

/-- Runs one command, at its position in a plan. -/
def runAt (executor : Executor) (runner : Runner σ) (watched : Bool) (index : Nat)
    (command : Command) (cancelled : Bool) (state : σ) : Course σ :=
  if command.argv.isEmpty then
    { Course.start cancelled state with
      entries := [.rejected index [] .emptyCommand] }
  else
    let argv := executor.settings.prepare command
    if cancelled then
      { Course.start cancelled state with
        entries := [.rejected index argv .cancelled] }
    else
      let (reply, state) := runner watched (executor.request argv) state
      { entries := [entry index argv reply]
        exchanges := [⟨executor.request argv, reply⟩]
        lines := if watched then reply.lines else []
        cancelled := reply.cancels
        state }

def runCommand (executor : Executor) (runner : Runner σ) (watched : Bool)
    (command : Command) (cancelled : Bool) (state : σ) : Course σ :=
  executor.runAt runner watched 0 command cancelled state

/-- Runs commands whose positions start at `index`. -/
def runFrom (executor : Executor) (runner : Runner σ) (watched : Bool) :
    (index : Nat) → List Command → (cancelled : Bool) → σ → Course σ
  | _, [], cancelled, state => .start cancelled state
  | index, command :: rest, cancelled, state =>
      let first := executor.runAt runner watched index command cancelled state
      first.andThen
        (executor.runFrom runner watched (index + 1) rest
          first.cancelled first.state)

def runPlan (executor : Executor) (runner : Runner σ) (watched : Bool)
    (plan : Plan) (cancelled : Bool) (state : σ) : Course σ :=
  executor.runFrom runner watched 0 plan.commands cancelled state

end Executor

end PlanGuard
