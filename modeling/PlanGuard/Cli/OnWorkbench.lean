import PlanGuard.Cli.Program
import PlanGuard.Workbench.Runners

/-!
# The program on the workbench

The surroundings in which the program runs without a real system: commands are
run on the workbench, and files are read as the caller says.
-/

namespace PlanGuard.Cli

/-- Surroundings on the workbench; `token` names the scratch directories. -/
def onWorkbench (token : String) (read : Sandbox.State → TextFiles) (input : String)
    (environment : List (String × String)) : Surroundings Sandbox.State :=
  { read, input, environment
    direct := Workbench.directRunner false .never
    sandboxed := fun root limits =>
      Workbench.sandboxRunner { root, token, limits } false .never }

def machineFiles (state : Sandbox.State) : TextFiles :=
  state.machine.readText?

end PlanGuard.Cli
