import PlanGuard.Journal.Document
import PlanGuard.Plan
import PlanGuard.Retry.Document

/-!
# Reports of a run

What is shown when a plan has been run: for people a line for each command and
each fix, for programs one document.
-/

namespace PlanGuard.Cli.Report

/-- The warnings of a plan, one on each line. -/
def warnings (plan : Plan) : List String :=
  plan.warnings.map fun warning => "warning: " ++ warning

def opening (plan : Plan) : List String :=
  plan.summary.toList ++ warnings plan

def entryLines (entry : Entry) : List String :=
  let line := entry.commandLine
  (match entry.failure with
    | none =>
        let millis := entry.elapsed.toMillis
        s!"[ok]   {line} ({millis} ms)"
    | some failure => "[fail] " ++ line ++ ": " ++ failure.message) ::
    if entry.truncated then ["       output truncated"] else []

/-- The line for a command of a fix, which counts the commands from one. -/
def fixLine (fix : Entry) : String :=
  let target :=
    match fix.fixFor with
    | some position => position + 1
    | none => 0
  let status := if fix.succeeded then "ok" else "fail"
  let line := fix.commandLine
  s!"[fix {target}] {line} ({status})"

def retryLine (report : RetryReport) : String :=
  s!"retry: {report.attempts} attempt(s), {report.applied} fix(es) applied, " ++
    s!"{report.rejected} rejected by policy"

def lines (journal : Journal) (retry : Option RetryReport) : List String :=
  [""] ++ journal.entries.flatMap entryLines ++ journal.audit.map fixLine ++
    retry.toList.map retryLine ++
    [s!"{journal.failed} of {journal.entries.length} command(s) failed"]

/-- The document about a plan, a journal and the retry after it. -/
def toJson (plan : Plan) (journal : Journal) (retry : Option RetryReport) : Json :=
  .object
    ([("summary", Json.ofOption .text plan.summary),
      ("warnings", Json.texts plan.warnings),
      ("results", journal.toJson)] ++
      Json.optionally "retry" (retry.map RetryReport.toJson))

end PlanGuard.Cli.Report
