import PlanGuard.Journal
import PlanGuard.Json.Document

/-!
# Journals as documents

The JSON form of failures, entries and journals.
-/

namespace PlanGuard

open Json

def Duration.toJson (span : Duration) : Json :=
  .object [("secs", nat span.seconds), ("nanos", nat span.nanos)]

namespace Failure

def kind : Failure → String
  | .emptyCommand => "empty_command"
  | .spawn _ _ => "spawn"
  | .exit _ => "exit"
  | .signal _ => "signal"
  | .timeout _ => "timeout"
  | .cancelled => "cancelled"
  | .resourceLimit _ => "resource_limit"
  | .rejected _ => "rejected"
  | .io _ => "io"

/-- What is particular to one failure of its kind. -/
def detail? : Failure → Option Json
  | .emptyCommand | .cancelled => none
  | .spawn program message =>
      some (.object [("program", .text program), ("message", .text message)])
  | .exit code => some (.object [("code", int code)])
  | .signal n => some (.object [("signal", int n)])
  | .timeout after => some after.toJson
  | .resourceLimit reason | .rejected reason | .io reason => some (.text reason)

def toJson (failure : Failure) : Json :=
  .object (("kind", .text failure.kind) :: optionally "detail" failure.detail?)

end Failure

def Entry.toJson (entry : Entry) : Json :=
  .object
    ([("index", nat entry.index),
      ("argv", texts entry.argv),
      ("output", .text entry.output),
      ("error", ofOption Failure.toJson entry.failure),
      ("elapsed", entry.elapsed.toJson),
      ("truncated", .bool entry.truncated),
      ("started_at", .text entry.startedAt.rfc3339)] ++
      optionally "fix_for" (entry.fixFor.map nat))

def Journal.toJson (journal : Journal) : Json :=
  .object
    [("items", .array (journal.entries.map Entry.toJson)),
      ("fixes", .array (journal.audit.map Entry.toJson)),
      ("failed", nat journal.failed)]

end PlanGuard
