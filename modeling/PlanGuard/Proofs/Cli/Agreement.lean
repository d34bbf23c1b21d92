import PlanGuard.Cli.Program
import PlanGuard.Proofs.Executor.Cancellation
import PlanGuard.Proofs.Gate.Verdict
import PlanGuard.Proofs.Plan.Truncation

/-!
# What is checked is what is run

`check` and `run` start from the same settings and the same plan, cut it alike and
ask the same gate.  `outset` is what both start from.  Whoever has approved of a plan
by what `check` has shown has seen the commands that the first pass of `run` hands
over, in their order, each on a line of its own, with a mark on those that get the
prefix for root.
-/

namespace PlanGuard

/-! ## Command lines are single lines -/

namespace Argv

theorem newline_not_mem_escape (c : Char) : '\n' ∉ escape c := by
  unfold escape
  split_ifs with quote slash newline
  · decide
  · decide
  · decide
  · decide
  · decide
  · decide
  · rw [List.mem_singleton]
    exact Ne.symm newline

/-- An argument with a line break is quoted, and the break is escaped. -/
theorem newline_not_mem_renderLetters (letters : List Char) :
    '\n' ∉ renderLetters letters := by
  unfold renderLetters
  split
  next quoted =>
    intro member
    rcases List.mem_append.mp member with opening | closing
    · rcases List.mem_cons.mp opening with quote | inside
      · exact absurd quote (by decide)
      · obtain ⟨c, -, escaped⟩ := List.mem_flatMap.mp inside
        exact newline_not_mem_escape c escaped
    · exact absurd closing (by decide)
  next bare =>
    intro member
    refine bare (Bool.or_eq_true_iff.mpr (.inr (List.any_eq_true.mpr ⟨'\n', member, ?_⟩)))
    decide

theorem newline_not_mem_renderWords (arguments : List (List Char)) :
    '\n' ∉ renderWords arguments := by
  fun_induction renderWords arguments with
  | case1 => exact List.not_mem_nil
  | case2 word => exact newline_not_mem_renderLetters word
  | case3 word next rest ih =>
      intro member
      rcases List.mem_append.mp member with first | later
      · exact newline_not_mem_renderLetters word first
      · rcases List.mem_cons.mp later with space | others
        · exact absurd space (by decide)
        · exact ih others

/-- A command line is a single line, whatever the arguments are. -/
theorem newline_not_mem_render (argv : Argv) : '\n' ∉ argv.render.toList := by
  unfold render
  rw [String.toList_ofList]
  exact newline_not_mem_renderWords _

end Argv

namespace ExecutorSettings

/-- If there is a prefix, the commands that get it are those that need root. -/
theorem prepare_ne_iff {settings : ExecutorSettings}
    (elevating : settings.elevationTokens ≠ []) (command : Command) :
    settings.prepare command ≠ command.argv ↔ command.needsRoot = true := by
  unfold prepare
  cases command.needsRoot with
  | false => simp
  | true => simpa using elevating

end ExecutorSettings

namespace Cli

variable {σ : Type}

/-! ## Where both start -/

/-- The settings and the plan that a task starts from, or why it cannot start. -/
def outset (surroundings : Surroundings σ) (config : Option String) (path : String)
    (state : σ) : Except Complaint (Settings × Plan) :=
  match Settings.load (surroundings.read state) surroundings.environment config
      surroundings.formats with
  | .error error => .error (.settings error)
  | .ok settings =>
      match readPlan surroundings path state with
      | .error complaint => .error complaint
      | .ok plan => .ok (settings, plan)

theorem perform_check (surroundings : Surroundings σ) (config : Option String)
    (path : String) (state : σ) :
    perform surroundings config (.check path) state =
      match outset surroundings config path state with
      | .error complaint => .idle (complaint.outcome "")
      | .ok (settings, plan) => .idle (check settings plan) := by
  unfold perform outset
  cases Settings.load (surroundings.read state) surroundings.environment config
      surroundings.formats with
  | error error => rfl
  | ok settings =>
      dsimp only
      cases readPlan surroundings path state <;> rfl

theorem perform_run (surroundings : Surroundings σ) (config : Option String)
    (path : String) (options : RunOptions) (state : σ) :
    perform surroundings config (.run path options) state =
      match outset surroundings config path state with
      | .error complaint => .idle (complaint.outcome "")
      | .ok (settings, plan) => run surroundings settings options plan state := by
  unfold perform outset
  cases Settings.load (surroundings.read state) surroundings.environment config
      surroundings.formats with
  | error error => rfl
  | ok settings =>
      dsimp only
      cases readPlan surroundings path state <;> rfl

/-! ## What a run does with a plan that may run -/

def executorOf (surroundings : Surroundings σ) (settings : Settings) : Executor :=
  { settings := settings.executor
    environmentPath := surroundings.environment.lookup "PATH" }

def firstPass (surroundings : Surroundings σ) (settings : Settings)
    (options : RunOptions) (plan : Plan) (state : σ) : Course σ :=
  (executorOf surroundings settings).runPlan (runnerOf surroundings settings options)
    (!(options.quiet || options.json)) plan false state

theorem course_runPermitted (surroundings : Surroundings σ) (settings : Settings)
    (options : RunOptions) (plan : Plan) (state : σ) :
    (runPermitted surroundings settings options plan state).course =
      some (firstPass surroundings settings options plan state) := by
  unfold runPermitted
  dsimp only
  split <;> rfl

theorem argv_requestFor (surroundings : Surroundings σ) (settings : Settings)
    (commands : List Command) :
    (commands.map (executorOf surroundings settings).requestFor).map (·.argv) =
      commands.map settings.executor.prepare := by
  rw [List.map_map]
  rfl

/-! ## Both verdicts -/

/-- How a plan is turned away: both say the same, and nothing is run. -/
structure TurnedAway (violation : Violation) (checked : Outcome) (ran : RunRecord σ) :
    Prop where
  codes : checked.code = 1 ∧ ran.outcome.code = 1
  words : checked.stderr = "rejected: " ++ violation.message ++ "\n" ∧
    ran.outcome.stderr = "rejected: " ++ violation.message ++ "\n"
  idle : ran.course = none ∧ ran.retry = none
  untouched : ran.requests = []

/-- How a plan is let through: what is shown is what is then handed over. -/
structure LetThrough (settings : Settings) (plan : Plan) (checked : Outcome)
    (ran : RunRecord σ) : Prop where
  code : checked.code = 0
  /-- A line for each command, with a mark after the command line of some. -/
  shown : checked.stdout =
    ofLines
      (plan.warnings.map (fun warning => "warning: " ++ warning) ++
        s!"ok: {plan.commands.length} command(s) permitted" ::
          plan.commands.map fun command =>
            "  " ++ command.argv.render ++ if command.needsRoot then " (root)" else "")
  single : ∀ command ∈ plan.commands, '\n' ∉ command.argv.render.toList
  /-- The first pass hands over these commands, all of them unless it is cancelled. -/
  handed : ∃ course, ran.course = some course ∧
    course.requests.map (·.argv) <+: plan.commands.map settings.executor.prepare ∧
    (course.cancelled = false →
      course.requests.map (·.argv) = plan.commands.map settings.executor.prepare)
  /-- The marked commands get the prefix, if there is one, and no others. -/
  marked : settings.executor.elevationTokens ≠ [] → ∀ command ∈ plan.commands,
    (command.needsRoot = true ↔ settings.executor.prepare command ≠ command.argv)

theorem turnedAway (surroundings : Surroundings σ) {settings : Settings} {given : Plan}
    {violation : Violation}
    (objected : (gateOf settings).violation? (taken settings given) = some violation)
    (options : RunOptions) (state : σ) :
    TurnedAway violation (check settings given)
      (run surroundings settings options given state) := by
  unfold check run
  dsimp only
  rw [objected]
  exact ⟨⟨rfl, rfl⟩, ⟨rfl, rfl⟩, ⟨rfl, rfl⟩, rfl⟩

theorem letThrough (surroundings : Surroundings σ) {settings : Settings} {given : Plan}
    (permitted : (gateOf settings).violation? (taken settings given) = none)
    (options : RunOptions) (state : σ) :
    LetThrough settings (taken settings given) (check settings given)
      (run surroundings settings options given state) := by
  obtain ⟨begun, whole⟩ := (executorOf surroundings settings).requests_runFrom
    (runnerOf surroundings settings options) (!(options.quiet || options.json))
    (Gate.named_of_violation?_eq_none permitted) 0 false state
  unfold check run
  dsimp only
  rw [permitted]
  refine
    { code := rfl
      shown := rfl
      single := fun command _ => Argv.newline_not_mem_render command.argv
      handed := ⟨_, course_runPermitted _ _ _ _ _, ?_, ?_⟩
      marked := fun elevating command _ =>
        (ExecutorSettings.prepare_ne_iff elevating command).symm }
  · rw [← argv_requestFor surroundings]
    exact begun.map _
  · intro live
    rw [← argv_requestFor surroundings]
    exact congrArg _ (whole live)

/--
`check` and `run` agree about every plan in all settings.  If there are no settings
or no plan, both end with the same complaint.  Otherwise both cut the plan to the
same commands and ask the same gate about it.  A plan that it turns away is turned
away by both with the same words and code, and nothing reaches the runner, neither
for the plan nor for fixes.  A plan that it lets through is run, and the lines that
`check` shows are in number and order those of the commands that the first pass hands
to the runner if nobody cancels, without their prefix; the mark for root is on those
that have one, if the settings give a prefix.  So `check` ends with the code 0 exactly
when `run` comes to its first pass.
-/
theorem check_agrees_with_run (surroundings : Surroundings σ) (config : Option String)
    (path : String) (options : RunOptions) (state : σ) :
    let checked := (perform surroundings config (.check path) state).outcome
    let ran := perform surroundings config (.run path options) state
    (checked.code = 0 ↔ ran.course.isSome = true) ∧
      match outset surroundings config path state with
      | .error complaint =>
          checked = complaint.outcome "" ∧ ran = .idle (complaint.outcome "")
      | .ok (settings, given) =>
          (taken settings given).commands = given.kept settings.retry.maxCommands ∧
            match (gateOf settings).violation? (taken settings given) with
            | some violation => TurnedAway violation checked ran
            | none => LetThrough settings (taken settings given) checked ran := by
  dsimp only
  rw [perform_check, perform_run]
  cases outset surroundings config path state with
  | error complaint => exact ⟨by simp [RunRecord.idle, Complaint.outcome], rfl, rfl⟩
  | ok start =>
      obtain ⟨settings, given⟩ := start
      dsimp only
      have cut : (taken settings given).commands = given.kept settings.retry.maxCommands :=
        Plan.commands_truncate _ _
      cases verdict : (gateOf settings).violation? (taken settings given) with
      | some violation =>
          have away := turnedAway surroundings verdict options state
          refine ⟨?_, cut, away⟩
          rw [away.idle.1]
          simp [RunRecord.idle, away.codes.1]
      | none =>
          have through := letThrough surroundings verdict options state
          obtain ⟨course, came, -⟩ := through.handed
          refine ⟨?_, cut, through⟩
          rw [came]
          simp [RunRecord.idle, through.code]

/-- A plan on standard input, and settings that deny `rm` and elevate with `sudo`. -/
def withInput (text : String) : Surroundings Unit where
  read _ path :=
    if path = "config/local.toml" then
      some "[policy]\ndeny = [\"^rm\"]\n[executor]\nelevation_command = \"sudo -n\"\n"
    else none
  input := text
  direct _ _ state := ({}, state)
  sandboxed _ _ _ _ state := ({}, state)

def echoing : String :=
  "\x7b\"commands\": [\x7b\"command\": [\"echo\", \"a b\"], \"needs_root\": true\x7d]\x7d"

def removing : String :=
  "\x7b\"commands\": [\x7b\"command\": [\"uptime\"]\x7d, \x7b\"command\": [\"rm\", \"-rf\", \"/\"]\x7d]\x7d"

/-- The first plan is let through with its command marked, and the second turned away. -/
theorem echoing_and_removing :
    (∃ settings plan,
        LetThrough settings plan (perform (withInput echoing) none (.check "-") ()).outcome
          (perform (withInput echoing) none (.run "-" {}) ()) ∧
        plan.commands.map settings.executor.prepare = [["sudo", "-n", "echo", "a b"]] ∧
        (perform (withInput echoing) none (.check "-") ()).outcome.stdout =
          "ok: 1 command(s) permitted\n  echo \"a b\" (root)\n") ∧
      ∃ violation,
        TurnedAway violation (perform (withInput removing) none (.check "-") ()).outcome
          (perform (withInput removing) none (.run "-" {}) ()) ∧
        (perform (withInput removing) none (.run "-" {}) ()).outcome.stderr =
          "rejected: command 2 blocked by denylist: rm -rf /\n" := by
  constructor
  · have shown : (perform (withInput echoing) none (.check "-") ()).outcome.stdout =
        "ok: 1 command(s) permitted\n  echo \"a b\" (root)\n" := by
      decide +kernel
    have begun : (outset (withInput echoing) none "-" ()).toOption.map
        (fun (settings, plan) => ((gateOf settings).violation? (taken settings plan),
          settings.executor.elevation, (taken settings plan).commands)) =
        some (none, some "sudo -n", [{ argv := ["echo", "a b"], needsRoot := true }]) := by
      decide +kernel
    have agreed := check_agrees_with_run (withInput echoing) none "-" {} ()
    cases started : outset (withInput echoing) none "-" () with
    | error complaint => rw [started] at begun; cases begun
    | ok start =>
        obtain ⟨settings, plan⟩ := start
        rw [started] at begun agreed
        obtain ⟨permitted, others⟩ := Prod.ext_iff.mp (Option.some.inj begun)
        obtain ⟨elevation, commands⟩ := Prod.ext_iff.mp others
        dsimp only at permitted elevation commands agreed
        rw [permitted] at agreed
        refine ⟨settings, _, agreed.2.2, ?_, shown⟩
        rw [commands, List.map_singleton, ExecutorSettings.prepare,
          ExecutorSettings.elevationTokens, elevation]
        decide +kernel
  · have begun : (outset (withInput removing) none "-" ()).toOption.map
        (fun (settings, plan) => (gateOf settings).violation? (taken settings plan)) =
        some (some ⟨1, .denied "rm -rf /" "^rm"⟩) := by
      decide +kernel
    have agreed := check_agrees_with_run (withInput removing) none "-" {} ()
    cases started : outset (withInput removing) none "-" () with
    | error complaint => rw [started] at begun; cases begun
    | ok start =>
        obtain ⟨settings, plan⟩ := start
        rw [started] at begun agreed
        have objected := Option.some.inj begun
        dsimp only at objected agreed
        rw [objected] at agreed
        have words : "rejected: " ++ Violation.message ⟨1, .denied "rm -rf /" "^rm"⟩ ++ "\n" =
            "rejected: command 2 blocked by denylist: rm -rf /\n" := by
          decide +kernel
        refine ⟨_, agreed.2.2, ?_⟩
        rw [agreed.2.2.words.2, words]

end Cli

end PlanGuard
