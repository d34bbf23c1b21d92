import PlanGuard.Proofs.Executor.Cancellation
import PlanGuard.Proofs.Text.Words

/-!
# The trace of a plan

The answers of the runner tell the whole run of a plan: which commands were handed
over, with what argv, and what the entry of each command says.  `Traced` reads a run
off its answers, one place for each command, and `Converses` says that the answers
are those of the runner, in the states that it passes through.  Two plans in a row
are run like one.
-/

namespace PlanGuard

namespace Runner

variable {σ : Type}

/-- What a runner answers to some requests, from one state to another. -/
inductive Converses (runner : Runner σ) (watched : Bool) :
    σ → List Exchange → σ → Prop where
  | nil (state : σ) : Converses runner watched state [] state
  | cons {state next last : σ} {request : Request} {reply : Reply}
      {rest : List Exchange} (answered : runner watched request state = (reply, next))
      (further : Converses runner watched next rest last) :
      Converses runner watched state (⟨request, reply⟩ :: rest) last

theorem Converses.append {runner : Runner σ} {watched : Bool}
    {first second : List Exchange} {state next last : σ}
    (earlier : Converses runner watched state first next)
    (later : Converses runner watched next second last) :
    Converses runner watched state (first ++ second) last := by
  induction earlier with
  | nil => exact later
  | cons answered _ ih => exact .cons answered (ih later)

end Runner

namespace Executor

/-! ## A run as its answers tell it -/

def Undisturbed (cancelled : Bool) (answers : List (Option Reply)) : Prop :=
  cancelled = false ∧ ∀ reply, some reply ∈ answers → reply.cancels = false

theorem undisturbed_cons {cancelled : Bool} {answer : Option Reply}
    {answers : List (Option Reply)} :
    Undisturbed cancelled (answer :: answers) ↔
      Undisturbed (cancelled || answer.any (·.cancels)) answers := by
  unfold Undisturbed
  cases answer with
  | none => simp
  | some reply => simp [and_assoc]

/--
The run of some commands as their answers tell it, with entries that are numbered
from `start`.  A command that was not handed to the runner has `none` in its place.
-/
structure Traced (executor : Executor) (start : Nat) (commands : List Command)
    (cancelled : Bool) (answers : List (Option Reply)) (exchanges : List Exchange)
    (entries : List Entry) : Prop where
  length_answers : answers.length = commands.length
  length_entries : entries.length = commands.length
  /-- Whether other commands have failed does not matter. -/
  handed_iff : ∀ position command, commands[position]? = some command →
    ((∃ reply, answers[position]? = some (some reply)) ↔
      command.argv ≠ [] ∧ Undisturbed cancelled (answers.take position))
  exchanges_eq : exchanges =
    (commands.zip answers).filterMap fun (command, answer) =>
      answer.map fun reply => ⟨executor.requestFor command, reply⟩
  answered : ∀ position command reply, commands[position]? = some command →
    answers[position]? = some (some reply) →
    entries[position]? = some
      { index := start + position
        argv := (executor.requestFor command).argv
        output := reply.output
        failure := reply.failure
        elapsed := reply.elapsed
        truncated := reply.truncated
        startedAt := reply.startedAt
        fixFor := none : Entry }
  unanswered : ∀ position command, commands[position]? = some command →
    answers[position]? = some none →
    entries[position]? = some (executor.turnedAway (start + position) command)

def entryFor (executor : Executor) (index : Nat) (command : Command) :
    Option Reply → Entry
  | some reply => entry index (executor.settings.prepare command) reply
  | none => executor.turnedAway index command

namespace Traced

variable {executor : Executor} {start : Nat} {cancelled : Bool} {commands : List Command}
  {answers : List (Option Reply)} {exchanges : List Exchange} {entries : List Entry}

theorem nil : executor.Traced start [] cancelled [] [] [] where
  length_answers := rfl
  length_entries := rfl
  handed_iff := nofun
  exchanges_eq := rfl
  answered := nofun
  unanswered := nofun

/-- A command and its answer come before a run that is told by its answers. -/
theorem cons {command : Command} {answer : Option Reply}
    (handed : (∃ reply, answer = some reply) ↔ command.argv ≠ [] ∧ cancelled = false)
    (rest : executor.Traced (start + 1) commands
      (cancelled || answer.any (·.cancels)) answers exchanges entries) :
    executor.Traced start (command :: commands) cancelled (answer :: answers)
      ((answer.map fun reply => ⟨executor.requestFor command, reply⟩).toList ++ exchanges)
      (executor.entryFor start command answer :: entries) where
  length_answers := congrArg (· + 1) rest.length_answers
  length_entries := congrArg (· + 1) rest.length_entries
  handed_iff := by
    intro position other found
    cases position with
    | zero =>
        obtain rfl : command = other := Option.some.inj found
        simpa [Undisturbed] using handed
    | succ position =>
        rw [List.getElem?_cons_succ, rest.handed_iff position other found,
          List.take_succ_cons, undisturbed_cons]
  exchanges_eq := by
    rw [List.zip_cons_cons, rest.exchanges_eq]
    cases answer <;> rfl
  answered := by
    intro position other reply found replied
    cases position with
    | zero =>
        obtain rfl : command = other := Option.some.inj found
        obtain rfl : answer = some reply := Option.some.inj replied
        rfl
    | succ position =>
        rw [List.getElem?_cons_succ, rest.answered position other reply found replied,
          Nat.add_right_comm, Nat.add_assoc]
  unanswered := by
    intro position other found silent
    cases position with
    | zero =>
        obtain rfl : command = other := Option.some.inj found
        obtain rfl : answer = none := Option.some.inj silent
        rfl
    | succ position =>
        rw [List.getElem?_cons_succ, rest.unanswered position other found silent,
          Nat.add_right_comm, Nat.add_assoc]

theorem map_index
    (traced : executor.Traced start commands cancelled answers exchanges entries) :
    entries.map (·.index) = List.range' start commands.length := by
  apply List.ext_getElem?
  intro position
  rw [List.getElem?_map]
  cases found : commands[position]? with
  | none =>
      have outside := List.getElem?_eq_none_iff.mp found
      rw [List.getElem?_eq_none (by rwa [traced.length_entries]),
        List.getElem?_eq_none (by rwa [List.length_range'])]
      rfl
  | some command =>
      have inside := (List.getElem?_eq_some_iff.mp found).1
      obtain ⟨answer, told⟩ : ∃ answer, answers[position]? = some answer :=
        ⟨_, List.getElem?_eq_getElem (by rwa [traced.length_answers])⟩
      rw [List.getElem?_range' inside, Nat.one_mul]
      cases answer with
      | some reply => rw [traced.answered position command reply found told]; rfl
      | none =>
          rw [traced.unanswered position command found told, Option.map_some]
          unfold turnedAway
          split <;> rfl

theorem request_of_mem
    (traced : executor.Traced start commands cancelled answers exchanges entries)
    {exchange : Exchange} (member : exchange ∈ exchanges) :
    ∃ command ∈ commands, command.argv ≠ [] ∧
      exchange.request = executor.requestFor command := by
  rw [traced.exchanges_eq] at member
  obtain ⟨⟨command, answer⟩, paired, made⟩ := List.mem_filterMap.mp member
  obtain ⟨reply, rfl, rfl⟩ := Option.map_eq_some_iff.mp made
  obtain ⟨position, inside, here⟩ := List.mem_iff_getElem.mp paired
  rw [List.getElem_zip, Prod.mk.injEq] at here
  rw [List.length_zip, Nat.lt_min] at inside
  have found : commands[position]? = some command := by
    rw [List.getElem?_eq_getElem inside.1, here.1]
  have replied : answers[position]? = some (some reply) := by
    rw [List.getElem?_eq_getElem inside.2, here.2]
  have handed := (traced.handed_iff position command found).mp ⟨reply, replied⟩
  exact ⟨command, List.mem_of_getElem? found, handed.1, rfl⟩

end Traced

section Runs

variable (executor : Executor) {σ : Type} (runner : Runner σ) (watched : Bool)

/-- One command is run as its answer tells, and the runner is asked for that alone. -/
theorem runAt_traced (index : Nat) (command : Command) (cancelled : Bool) (state : σ) :
    let course := executor.runAt runner watched index command cancelled state
    runner.Converses watched state course.exchanges course.state ∧
      ∃ answer : Option Reply,
        ((∃ reply, answer = some reply) ↔ command.argv ≠ [] ∧ cancelled = false) ∧
        course.entries = [executor.entryFor index command answer] ∧
        course.exchanges =
          (answer.map fun reply => ⟨executor.requestFor command, reply⟩).toList ∧
        course.cancelled = (cancelled || answer.any (·.cancels)) := by
  unfold runAt
  cases nameless : command.argv with
  | nil =>
      refine ⟨.nil state, none, by simp, ?_, rfl, by simp [Course.start]⟩
      simp [entryFor, turnedAway, nameless]
  | cons program arguments =>
      rw [List.isEmpty_cons, if_neg Bool.false_ne_true]
      cases cancelled with
      | true =>
          refine ⟨.nil state, none, by simp, ?_, rfl, rfl⟩
          simp [entryFor, turnedAway, nameless]
      | false => exact ⟨.cons rfl (.nil _), some _, by simp, rfl, rfl, rfl⟩

/-- A run of commands is told by its answers, and these are the runner's. -/
theorem runFrom_traced (start : Nat) (commands : List Command) (cancelled : Bool)
    (state : σ) :
    let course := executor.runFrom runner watched start commands cancelled state
    runner.Converses watched state course.exchanges course.state ∧
      ∃ answers,
        executor.Traced start commands cancelled answers course.exchanges course.entries := by
  induction commands generalizing start cancelled state with
  | nil => exact ⟨.nil state, [], .nil⟩
  | cons command rest ih =>
      obtain ⟨conversed, answer, handed, entries, exchanges, noticed⟩ :=
        executor.runAt_traced runner watched start command cancelled state
      rw [runFrom_cons]
      dsimp only [Course.andThen]
      obtain ⟨further, answers, traced⟩ := ih (start + 1)
        (executor.runAt runner watched start command cancelled state).cancelled
        (executor.runAt runner watched start command cancelled state).state
      refine ⟨conversed.append further, answer :: answers, ?_⟩
      rw [entries, exchanges]
      rw [noticed] at traced ⊢
      exact traced.cons handed

end Runs

end Executor

/-! ## The argv of a request -/

/--
The argv for a command that names a program.  It is the command's own, after the
words of the elevation if the command needs root; so it is never empty, and never
those words alone.
-/
structure ExecutorSettings.Elevates (settings : ExecutorSettings) (command : Command)
    (argv : Argv) : Prop where
  nonempty : argv ≠ []
  own : command.needsRoot = false → argv = command.argv
  elevated : command.needsRoot = true → ∃ words, argv = words ++ command.argv ∧
    argv ≠ words ∧ (settings.elevation = none → words = []) ∧
    ∀ text, settings.elevation = some text → Text.FallsInto text.toList words

theorem ExecutorSettings.elevates_prepare (settings : ExecutorSettings)
    {command : Command} (named : command.argv ≠ []) :
    settings.Elevates command (settings.prepare command) where
  nonempty := by
    unfold prepare
    split
    · simp [named]
    · exact named
  own := by
    intro unprivileged
    unfold prepare
    rw [unprivileged, if_neg Bool.false_ne_true]
  elevated := by
    intro privileged
    unfold prepare elevationTokens
    rw [privileged, if_pos rfl]
    refine ⟨_, rfl, by simpa using named, ?_, ?_⟩
    · intro absent
      rw [absent]
    · intro text given
      rw [given]
      exact Text.fallsInto_words text

/-! ## One plan after another -/

def Entry.shifted (offset : Nat) (entry : Entry) : Entry :=
  { entry with index := entry.index + offset }

def Course.shifted {σ : Type} (offset : Nat) (course : Course σ) : Course σ :=
  { course with entries := course.entries.map (Entry.shifted offset) }

namespace Executor

variable (executor : Executor) {σ : Type} (runner : Runner σ) (watched : Bool)

theorem runAt_add (index offset : Nat) (command : Command) (cancelled : Bool)
    (state : σ) :
    executor.runAt runner watched (index + offset) command cancelled state =
      (executor.runAt runner watched index command cancelled state).shifted offset := by
  unfold runAt
  cases command.argv.isEmpty with
  | true => rfl
  | false => cases cancelled <;> rfl

/-- Where the numbers start matters to nothing but the numbers. -/
theorem runFrom_add (index offset : Nat) (commands : List Command) (cancelled : Bool)
    (state : σ) :
    executor.runFrom runner watched (index + offset) commands cancelled state =
      (executor.runFrom runner watched index commands cancelled state).shifted offset := by
  induction commands generalizing index cancelled state with
  | nil => rfl
  | cons command rest ih =>
      rw [runFrom_cons, runFrom_cons, runAt_add]
      dsimp only
      rw [Nat.add_right_comm, ih]
      simp [Course.andThen, Course.shifted]

/-- A plan that continues another is run where that has led to. -/
theorem runPlan_joined {first second whole : Plan}
    (joined : whole.commands = first.commands ++ second.commands) (cancelled : Bool)
    (state : σ) :
    executor.runPlan runner watched whole cancelled state =
      let course := executor.runPlan runner watched first cancelled state
      course.andThen ((executor.runPlan runner watched second course.cancelled
        course.state).shifted first.size) := by
  unfold runPlan Plan.size
  rw [joined, runFrom_append]
  dsimp only
  rw [runFrom_add]

/--
The trace of a plan.  The runner is asked for the commands that name a program, each
once and in order, until the run is cancelled; it is asked for the command's own
argv, after the words of the elevation if the command needs root.  There is an entry
for every command, at its number, with what the runner has answered.  A plan that
continues another asks for what the two ask for in a row, and has their entries and
the sum of their failures.
-/
theorem runPlan_trace (plan : Plan) (cancelled : Bool) (state : σ) :
    let course := executor.runPlan runner watched plan cancelled state
    (∃ answers, executor.Traced 0 plan.commands cancelled answers course.exchanges
      course.journal.entries) ∧
    runner.Converses watched state course.exchanges course.state ∧
    executor.events runner watched plan cancelled state =
      course.exchanges.map .requested ∧
    (∀ exchange ∈ course.exchanges, ∃ command ∈ plan.commands, command.argv ≠ [] ∧
      exchange.request = executor.requestFor command ∧
      executor.settings.Elevates command exchange.request.argv) ∧
    ∀ later whole : Plan, whole.commands = plan.commands ++ later.commands →
      let further :=
        executor.runPlan runner watched later course.cancelled course.state
      let joined := executor.runPlan runner watched whole cancelled state
      joined.exchanges = course.exchanges ++ further.exchanges ∧
        joined.journal.entries = course.journal.entries ++
          further.journal.entries.map (Entry.shifted plan.size) ∧
        joined.journal.failed = course.journal.failed + further.journal.failed ∧
        joined.cancelled = further.cancelled ∧ joined.state = further.state := by
  intro course
  obtain ⟨conversed, answers, traced⟩ :=
    executor.runFrom_traced runner watched 0 plan.commands cancelled state
  have entries (any : Course σ) : any.journal.entries = any.entries :=
    Journal.entries_ofEntries _
  refine ⟨⟨answers, (entries course).symm ▸ traced⟩, conversed,
    executor.events_eq runner watched plan cancelled state, ?_, ?_⟩
  · intro exchange member
    obtain ⟨command, among, named, asked⟩ := traced.request_of_mem member
    refine ⟨command, among, named, asked, ?_⟩
    rw [asked]
    exact executor.settings.elevates_prepare named
  · intro later whole joined
    rw [executor.runPlan_joined runner watched joined]
    dsimp only
    refine ⟨rfl, ?_, ?_, rfl, rfl⟩
    · rw [entries, entries, entries]
      rfl
    · unfold Course.journal
      rw [Journal.failed_ofEntries, Journal.failed_ofEntries, Journal.failed_ofEntries]
      dsimp only [Course.andThen, Course.shifted]
      rw [List.countP_append, List.countP_map]
      rfl

/-- A runner that fails the first command and is cancelled with the second. -/
def faltering : Runner Nat :=
  fun _ _ asked =>
    if asked = 0 then ({ output := "busy", failure := some (.exit 1) }, 1)
    else ({ output := "done", cancels := true }, asked + 1)

def elevating : Executor :=
  { settings := { elevation := some " sudo  -n" } }

/-- The failure of the first command stops nothing, the cancellation with the third does. -/
theorem faltering_trace :
    let first : Plan :=
      { commands := [{ argv := ["mount"], needsRoot := true }, {}, { argv := ["sync"] }] }
    let later : Plan := { commands := [{ argv := ["reboot"], needsRoot := true }] }
    let whole : Plan := { commands := first.commands ++ later.commands }
    let course := elevating.runPlan faltering false first false 0
    let joined := elevating.runPlan faltering false whole false 0
    joined.requests.map (·.argv) = [["sudo", "-n", "mount"], ["sync"]] ∧
      joined.journal.entries =
        [{ index := 0, argv := ["sudo", "-n", "mount"], output := "busy",
           failure := some (.exit 1) },
          { index := 1, failure := some .emptyCommand },
          { index := 2, argv := ["sync"], output := "done" },
          { index := 3, argv := ["sudo", "-n", "reboot"], failure := some .cancelled }] ∧
      joined.journal.failed = course.journal.failed + 1 ∧
      joined.exchanges = course.exchanges ++ [] := by
  intro first later whole course joined
  obtain ⟨exchanges, -, failed, -, -⟩ :=
    (runPlan_trace elevating faltering false first false 0).2.2.2.2 later whole rfl
  exact ⟨by decide +kernel, by decide +kernel, failed, exchanges⟩

end Executor

end PlanGuard
