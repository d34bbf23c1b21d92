import PlanGuard.Argv

/-!
# Plans

A plan is the sequence of commands that somebody proposes to run, together with
words about it that are only ever shown.  A plan may be cut to its first
commands; the cut is recorded as a warning.
-/

namespace PlanGuard

structure Command where
  argv : Argv := []
  description : Option String := none
  needsRoot : Bool := false
  deriving DecidableEq

namespace Command

def program? (command : Command) : Option String :=
  command.argv.head?

/-- The command line shown for this command, without any elevation. -/
def render (command : Command) : String :=
  command.argv.render

end Command

structure Plan where
  summary : Option String := none
  commands : List Command := []
  warnings : List String := []
  deriving DecidableEq

namespace Plan

def isEmpty (plan : Plan) : Bool :=
  plan.commands.isEmpty

def size (plan : Plan) : Nat :=
  plan.commands.length

/-- How many commands a limit takes away; a limit of zero takes none. -/
def excess (limit : Nat) (plan : Plan) : Nat :=
  if limit = 0 then 0 else plan.size - limit

/-- What is said when `dropped` commands fall to a limit. -/
def truncationWarning (limit dropped : Nat) : String :=
  s!"plan truncated to {limit} commands ({dropped} dropped)"

/-- Keeps the first `limit` commands and says so if that drops any. -/
def truncate (limit : Nat) (plan : Plan) : Plan :=
  let dropped := excess limit plan
  if dropped = 0 then plan
  else { plan with
    commands := plan.commands.take limit
    warnings := plan.warnings ++ [truncationWarning limit dropped] }

end Plan

end PlanGuard
