import PlanGuard.Gate
import PlanGuard.Pattern.Places
import PlanGuard.Pattern.Reading

/-!
# Compiling patterns

A pattern for the gate is made from its source: it accepts a command line if
the expression that the source stands for occurs anywhere in it.
-/

namespace PlanGuard

def Pattern.compile (source : String) : Option Pattern :=
  (Pattern.parse source).map fun expr => { source, accepts := expr.occursIn }

def Gate.compile (allow deny : List String) : Gate :=
  Gate.ofSources Pattern.compile allow deny

end PlanGuard
