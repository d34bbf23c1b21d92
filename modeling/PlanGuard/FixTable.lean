import PlanGuard.Plan.Document
import PlanGuard.Retry

/-!
# Tables of fixes

The simplest planner: a table from command lines to plans, written as a JSON
object.  It always answers at once, and with an empty plan for a command line
that it does not list.
-/

namespace PlanGuard

/-- Plans by command line, each line at most once. -/
structure FixTable where
  plans : List (String × Plan) := []

namespace FixTable

def size (table : FixTable) : Nat :=
  table.plans.length

def plan (table : FixTable) (line : String) : Plan :=
  (table.plans.lookup line).getD {}

def parse (text : String) : Except Json.Fault FixTable :=
  (Json.decodeText (Json.Decode.table Plan.decode) text).map FixTable.mk

/-- The planner that looks fixes up. -/
def planner {σ : Type} (table : FixTable) : Planner σ := fun question state =>
  ({ answer := .ok (table.plan question.command) }, state)

end FixTable

end PlanGuard
