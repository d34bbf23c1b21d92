import PlanGuard.Cli.EnvironmentFile
import PlanGuard.Cli.Help
import PlanGuard.Cli.Report
import PlanGuard.FixTable
import PlanGuard.Pattern.Compile
import PlanGuard.Plan.Document
import PlanGuard.Settings.Load
import PlanGuard.Sink
import PlanGuard.Unicode.Property

/-!
# The program

`check` tells whether a plan may run, and `run` runs it, tries to fix what has
failed, and reports.  Both read the settings and the plan in the same way and
ask the same gate.  What they work with is a parameter: how files are read, and
the runners that carry commands out.
-/

namespace PlanGuard.Cli

structure Outcome where
  code : Nat
  stdout : String := ""
  stderr : String := ""
  deriving DecidableEq

inductive Complaint where
  | settings (error : LoadError)
  | unreadablePlan (path : String)
  | invalidPlan
  | unreadableFixes (path : String)
  | invalidFixes
  deriving DecidableEq

namespace Complaint

def message : Complaint → String
  | .settings error => error.message
  | .unreadablePlan path => "Failed to read plan " ++ path
  | .invalidPlan => "Invalid plan JSON"
  | .unreadableFixes path => "Failed to read fix table " ++ path
  | .invalidFixes => "Invalid fix table JSON"

def outcome (complaint : Complaint) (stdout : String) : Outcome :=
  { code := 1, stdout, stderr := "Error: " ++ complaint.message ++ "\n" }

end Complaint

/-- What the program works with, over a state of type `σ`. -/
structure Surroundings (σ : Type) where
  /-- The text of a file, as it is in a state. -/
  read : σ → TextFiles
  /-- What is on standard input. -/
  input : String := ""
  environment : List (String × String) := []
  /-- The formats that files with settings can be in. -/
  formats : List TextFormat := TextFormat.known
  direct : Runner σ
  /-- The runner of a sandbox below a directory. -/
  sandboxed : (root : String) → Sandbox.Limits → Runner σ

structure RunRecord (σ : Type) where
  outcome : Outcome
  /-- The first pass through the plan, if it came to that. -/
  course : Option (Course σ)
  /-- The retry after it, if there was one. -/
  retry : Option (RetryRun σ)

namespace RunRecord

variable {σ : Type}

def requests (record : RunRecord σ) : List Request :=
  (record.course.map Course.requests).getD [] ++
    (record.retry.map Retry.requests).getD []

def idle (outcome : Outcome) : RunRecord σ :=
  { outcome, course := none, retry := none }

end RunRecord

/-- The plan that is taken of one that was given: its first commands. -/
def taken (settings : Settings) (plan : Plan) : Plan :=
  plan.truncate settings.retry.maxCommands

def gateOf (settings : Settings) : Gate :=
  Gate.compile settings.policy.allow settings.policy.deny

def rejection (violation : Violation) : String :=
  "rejected: " ++ violation.message ++ "\n"

def permittedLine (command : Command) : String :=
  "  " ++ command.render ++ (if command.needsRoot then " (root)" else "")

/-- Tells whether a plan may run, and what would be run. -/
def check (settings : Settings) (given : Plan) : Outcome :=
  let plan := taken settings given
  let warnings := Report.warnings plan
  match (gateOf settings).violation? plan with
  | none =>
      let count := s!"ok: {plan.size} command(s) permitted"
      { code := 0
        stdout := ofLines (warnings ++ count :: plan.commands.map permittedLine) }
  | some violation =>
      { code := 1, stdout := ofLines warnings, stderr := rejection violation }

section

variable {σ : Type}

/-- The text of a plan: from a file, or from standard input for a dash. -/
def planText (surroundings : Surroundings σ) (path : String) (state : σ) :
    Except Complaint String :=
  if path = "-" then .ok surroundings.input
  else
    match surroundings.read state path with
    | some text => .ok text
    | none => .error (.unreadablePlan path)

def readPlan (surroundings : Surroundings σ) (path : String) (state : σ) :
    Except Complaint Plan :=
  match planText surroundings path state with
  | .error complaint => .error complaint
  | .ok text =>
      match Plan.parse text with
      | .ok plan => .ok plan
      | .error _ => .error .invalidPlan

def readFixes (surroundings : Surroundings σ) (path : String) (state : σ) :
    Except Complaint FixTable :=
  match surroundings.read state path with
  | none => .error (.unreadableFixes path)
  | some text =>
      match FixTable.parse text with
      | .ok table => .ok table
      | .error _ => .error .invalidFixes

/-- The directory for what is needed for a while only. -/
def temporaryDirectory (environment : List (String × String)) : String :=
  (environment.lookup "TMPDIR").getD "/tmp"

def runnerOf (surroundings : Surroundings σ) (settings : Settings)
    (options : RunOptions) : Runner σ :=
  if options.sandbox then
    let root :=
      settings.sandbox.root.getD (temporaryDirectory surroundings.environment)
    surroundings.sandboxed root settings.sandbox.limits
  else surroundings.direct

/-- Tries to fix what has failed, if there is a table of fixes for it. -/
def retryAfter (surroundings : Surroundings σ) (settings : Settings)
    (options : RunOptions) (executor : Executor) (runner : Runner σ)
    (course : Course σ) : Except Complaint (Option (RetryRun σ)) :=
  match options.fixes with
  | none => .ok none
  | some path =>
      if settings.retry.isActive then
        match readFixes surroundings path course.state with
        | .error complaint => .error complaint
        | .ok table =>
            let retry : Retry σ :=
              { executor, gate := gateOf settings, settings := settings.retry,
                runner, planner := table.planner }
            .ok (some (retry.run course.journal course.cancelled course.state))
      else .ok none

def report (options : RunOptions) (plan : Plan) (shown : String)
    (journal : Journal) (retry : Option RetryReport) : Outcome :=
  { code := if journal.isSuccess then 0 else 1
    stdout :=
      if options.json then (Report.toJson plan journal retry).pretty ++ "\n"
      else shown ++ ofLines (Report.lines journal retry) }

def runPermitted (surroundings : Surroundings σ) (settings : Settings)
    (options : RunOptions) (plan : Plan) (state : σ) : RunRecord σ :=
  let executor : Executor :=
    { settings := settings.executor
      environmentPath := surroundings.environment.lookup "PATH" }
  let runner := runnerOf surroundings settings options
  let watched := !(options.quiet || options.json)
  let course := executor.runPlan runner watched plan false state
  let shown :=
    if options.json then ""
    else ofLines (Report.opening plan) ++
      (Writer.lines {} (if watched then course.lines else [])).written
  match retryAfter surroundings settings options executor runner course with
  | .error complaint =>
      { outcome := complaint.outcome shown, course := some course, retry := none }
  | .ok retry =>
      let journal := (retry.map RetryRun.journal).getD course.journal
      { outcome := report options plan shown journal (retry.map RetryRun.report)
        course := some course
        retry }

def run (surroundings : Surroundings σ) (settings : Settings)
    (options : RunOptions) (given : Plan) (state : σ) : RunRecord σ :=
  let plan := taken settings given
  match (gateOf settings).violation? plan with
  | some violation => .idle { code := 1, stderr := rejection violation }
  | none => runPermitted surroundings settings options plan state

def perform (surroundings : Surroundings σ) (config : Option String) (task : Task)
    (state : σ) : RunRecord σ :=
  let settings :=
    Settings.load (surroundings.read state) surroundings.environment config
      surroundings.formats
  match settings with
  | .error error => .idle ((Complaint.settings error).outcome "")
  | .ok settings =>
      let path :=
        match task with
        | .check path => path
        | .run path _ => path
      match readPlan surroundings path state with
      | .error complaint => .idle (complaint.outcome "")
      | .ok plan =>
          match task with
          | .check _ => .idle (check settings plan)
          | .run _ options => run surroundings settings options plan state

/-- A character that can be in the name of a variable that a value mentions. -/
def isNameLetter (c : Char) : Bool :=
  Text.Ranges.member Unicode.alphanumeric c.toNat

/-- Surroundings whose environment has the variables of the file `.env` too. -/
def withEnvironmentFile (surroundings : Surroundings σ) (state : σ) :
    Surroundings σ :=
  match surroundings.read state ".env" with
  | none => surroundings
  | some text =>
      { surroundings with
        environment :=
          EnvironmentFile.addTo surroundings.environment isNameLetter text }

def misuseText : String :=
  "error: the arguments are not understood\n\n" ++
    "For more information, try '--help'.\n"

def execute (surroundings : Surroundings σ) (arguments : List String) (state : σ) :
    Outcome :=
  match Demand.ofArguments arguments with
  | .misuse => { code := 2, stderr := misuseText }
  | .version => { code := 0, stdout := versionText }
  | .help topic => { code := 0, stdout := helpText topic }
  | .task config task =>
      (perform (withEnvironmentFile surroundings state) config task state).outcome

end

end PlanGuard.Cli
