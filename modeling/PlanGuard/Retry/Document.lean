import PlanGuard.Retry
import PlanGuard.Json.Document

/-!
# Retry reports as documents
-/

namespace PlanGuard

open Json

def RetryReport.toJson (report : RetryReport) : Json :=
  .object
    [("attempts", nat report.attempts),
      ("fixes_requested", nat report.requested),
      ("fixes_applied", nat report.applied),
      ("fixes_failed", nat report.failed),
      ("fixes_rejected", nat report.rejected),
      ("fixes_unavailable", nat report.unavailable),
      ("remaining_failures", nat report.remaining)]

end PlanGuard
