import PlanGuard.Sandbox.Runner
import PlanGuard.Workbench.Launch

/-!
# Runners of the workbench

The two ways to run commands on the workbench, over one state: directly, and in
a sandbox.
-/

namespace PlanGuard.Workbench

def directRunner (frozen : Bool) (trigger : Trigger) : Runner Sandbox.State :=
  fun watched request state =>
    let (reply, machine) :=
      direct (launch frozen) trigger watched request state.machine
    (reply, { state with machine })

def sandboxRunner (sandbox : Sandbox) (frozen : Bool) (trigger : Trigger) :
    Runner Sandbox.State :=
  sandbox.runner (launch frozen) trigger

end PlanGuard.Workbench
