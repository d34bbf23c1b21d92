import PlanGuard.Cli.OnWorkbench

/-!
# The command line program

Reads the files that the command line names, runs the program, and prints what
it says.  Commands of a plan are run on the workbench, never on the real system.
-/

namespace PlanGuard.Main

open Cli

def pathsOf : Demand → List String
  | .task config task =>
      let named := config.toList ++
        match task with
        | .check plan => [plan]
        | .run plan options => plan :: options.fixes.toList
      (".env" :: Settings.localPath :: named).flatMap fun path =>
        path :: TextFormat.known.flatMap fun format =>
          format.endings.map fun ending => path ++ "." ++ ending
  | _ => []

def settingNames : List String :=
  let named (section_ : String) (keys : List String) : List String :=
    keys.map fun key => ("wrtpilot_" ++ section_ ++ "__" ++ key).toUpper
  ["PATH", "TMPDIR"] ++
    named "executor"
      ["timeout_secs", "max_output_bytes", "elevation_command", "fallback_path"] ++
    named "sandbox" ["root"] ++
    named "sandbox__limits"
      ["max_execution_secs", "max_memory_mb", "max_cpu_percent",
        "poll_interval_ms"] ++
    named "retry" ["enabled", "max_retries", "max_commands", "fix_timeout_secs"]

def readFiles : List String → IO (List (String × String))
  | [] => pure []
  | path :: rest => do
      let more ← readFiles rest
      try
        let text ← IO.FS.readFile path
        pure ((path, text) :: more)
      catch _ => pure more

def readEnvironment : List String → IO (List (String × String))
  | [] => pure []
  | name :: rest => do
      let more ← readEnvironment rest
      match ← IO.getEnv name with
      | some value => pure ((name, value) :: more)
      | none => pure more

def readInput : Demand → IO String
  | .task _ (.check "-") | .task _ (.run "-" _) => do
      (← IO.getStdin).readToEnd
  | _ => pure ""

end PlanGuard.Main

open PlanGuard in
def main (arguments : List String) : IO UInt32 := do
  let demand := Cli.Demand.ofArguments arguments
  let files ← Main.readFiles (Main.pathsOf demand)
  let environment ← Main.readEnvironment Main.settingNames
  let input ← Main.readInput demand
  let read (_ : Sandbox.State) (path : String) : Option String := files.lookup path
  let surroundings := Cli.onWorkbench "0" read input environment
  let now ← IO.monoNanosNow
  let machine : Machine := { files := Workbench.files [], now := (now : Int) }
  let outcome := Cli.execute surroundings arguments { machine }
  (← IO.getStdout).putStr outcome.stdout
  (← IO.getStderr).putStr outcome.stderr
  pure (UInt32.ofNat outcome.code)
