import PlanGuard.Workbench.Runners

/-!
# Trials

A trial runs commands on the workbench, directly or in a sandbox, and looks at
the scratch directory between them.  Every action takes a moment, so that no two
of them see the same time.
-/

namespace PlanGuard.Workbench

/-- How a command is run, apart from what it is. -/
structure Manner where
  watched : Bool := false
  /-- The run is cancelled before it begins. -/
  cancelled : Bool := false
  trigger : Trigger := .never

inductive Action where
  /-- A command goes through the executor. -/
  | run (command : Command) (manner : Manner)
  /-- An argv goes straight to the runner. -/
  | request (argv : Argv) (manner : Manner)
  /-- A file, or a directory with a file in it, appears in the scratch directory. -/
  | leave (name : String) (ageSeconds : Int) (asDirectory : Bool)
  | cleanup
  | list
  | countRoot
  | scratch
  | build (argv : Argv) (path : String)
  | idleWatch

inductive Outcome where
  | entry (entry : Entry) (lines : List Line)
  | done
  | removed (count : Nat)
  | names (names : List String)
  | count (count : Nat)
  /-- The path of the scratch directory, whether it stays the same, its mode. -/
  | scratch (path : String) (same : Bool) (mode : Nat)
  | child (child : Child)
  | violation (violation : Option Failure)
  | trouble (trouble : Sandbox.Trouble)

structure Trial where
  executor : Executor
  sandbox : Sandbox
  /-- Commands run in the sandbox. -/
  sandboxed : Bool
  /-- Nothing that waits ever gets on. -/
  frozen : Bool := false

namespace Trial

def runner (trial : Trial) (trigger : Trigger) : Runner Sandbox.State :=
  if trial.sandboxed then sandboxRunner trial.sandbox trial.frozen trigger
  else directRunner trial.frozen trigger

def pause : Int := 1000000

def run (trial : Trial) (command : Command) (manner : Manner)
    (state : Sandbox.State) : Outcome × Sandbox.State :=
  let course := trial.executor.runCommand (trial.runner manner.trigger)
    manner.watched command manner.cancelled state
  match course.entries with
  | entry :: _ => (.entry entry course.lines, course.state)
  | [] => (.done, course.state)

def request (trial : Trial) (argv : Argv) (manner : Manner)
    (state : Sandbox.State) : Outcome × Sandbox.State :=
  let trigger := if manner.cancelled then .atOnce else manner.trigger
  let (reply, state) :=
    trial.runner trigger manner.watched (trial.executor.request argv) state
  let lines := if manner.watched then reply.lines else []
  (.entry (Executor.entry 0 argv reply) lines, state)

/-- Does something with the place of the scratch directory. -/
def inScratch (trial : Trial) (state : Sandbox.State)
    (use : String → List String → Machine → Except SystemError (Outcome × Machine)) :
    Outcome × Sandbox.State :=
  match trial.sandbox.scratchDirectory state with
  | (.error trouble, state) => (.trouble trouble, state)
  | (.ok path, state) =>
      match state.machine.resolve path >>= fun place =>
          use path place state.machine with
      | .error error => (.trouble (.system error), state)
      | .ok (outcome, machine) => (outcome, { state with machine })

/-- A new file of an age, or a directory of that age with such a file in it. -/
def leftover (modified : Int) (asDirectory : Bool) : FileTree :=
  let file := FileTree.file { modified := some modified } []
  if asDirectory then
    .directory { modified := some modified, mode := 0o755 } [("inner", file)]
  else file

def act (trial : Trial) (action : Action) (state : Sandbox.State) :
    Outcome × Sandbox.State :=
  match action with
  | .run command manner => trial.run command manner state
  | .request argv manner => trial.request argv manner state
  | .leave name ageSeconds asDirectory =>
      trial.inScratch state fun _ place machine => do
        let modified := machine.now - ageSeconds * 1000000000
        let files ← machine.files.put machine.now (place ++ [name])
          (leftover modified asDirectory)
        pure (.done, { machine with files })
  | .cleanup =>
      match Sandbox.cleanup state with
      | (.error error, state) => (.trouble (.system error), state)
      | (.ok count, state) => (.removed count, state)
  | .list =>
      trial.inScratch state fun path _ machine => do
        let entries ← machine.entries path
        pure (.names (Programs.sorted (entries.map (·.1))), machine)
  | .countRoot =>
      match state.machine.entries trial.sandbox.root with
      | .error error => (.trouble (.system error), state)
      | .ok entries => (.count entries.length, state)
  | .scratch =>
      let again := (trial.sandbox.scratchDirectory
        (trial.sandbox.scratchDirectory state).2).1
      trial.inScratch state fun path place machine => do
        let tree ← machine.files.find place
        let same :=
          match again with
          | .ok other => path == other
          | .error _ => false
        pure (.scratch path same tree.stamp.mode, machine)
  | .build argv path =>
      match trial.sandbox.build argv path state with
      | (.error trouble, state) => (.trouble trouble, state)
      | (.ok child, state) => (.child child, state)
  | .idleWatch =>
      let limits := trial.sandbox.limits
      (.violation (Sandbox.Watch.idle limits limits.maxExecution).violation, state)

def outcomes (trial : Trial) : List Action → Sandbox.State → List Outcome
  | [], _ => []
  | action :: rest, state =>
      let (outcome, state) := trial.act action state
      let machine := { state.machine with now := state.machine.now + pause }
      outcome :: trial.outcomes rest { state with machine }

end Trial

end PlanGuard.Workbench
