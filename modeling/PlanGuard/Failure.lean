import PlanGuard.Time

/-!
# Why a command failed

One constructor per cause, and the sentence that tells it.
-/

namespace PlanGuard

inductive Failure where
  | emptyCommand
  | spawn (program message : String)
  | exit (code : Int)
  | signal (number : Int)
  | timeout (after : Duration)
  | cancelled
  | resourceLimit (reason : String)
  | rejected (reason : String)
  | io (message : String)
  deriving DecidableEq

def Failure.message : Failure → String
  | .emptyCommand => "empty command"
  | .spawn program message => s!"failed to start {program}: {message}"
  | .exit code => s!"exit status {code}"
  | .signal number => s!"terminated by signal {number}"
  | .timeout after => s!"timed out after {after.seconds}s"
  | .cancelled => "cancelled"
  | .resourceLimit reason => "resource limit exceeded: " ++ reason
  | .rejected reason => "rejected by sandbox: " ++ reason
  | .io message => "io error: " ++ message

end PlanGuard
