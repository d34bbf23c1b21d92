import PlanGuard.Proofs.Executor.Trace

/-!
# Runs that somebody watches

A run is watched if its lines are shown while it goes on.  Where the runner settles
a request alike whether it is watched or not, so does the executor: `Alike` compares
a watched run with one that is not, command by command.  The two can differ in the
times that were taken and in nothing else.  What a watcher sees are the lines of the
answers, one answer after another.
-/

namespace PlanGuard

namespace Reply

/-- What a reply settles; neither the times nor the lines belong to it. -/
def settled (reply : Reply) : Reply :=
  { reply with elapsed := .zero, startedAt := {}, lines := [] }

end Reply

namespace Entry

def timeless (entry : Entry) : Entry :=
  { entry with elapsed := .zero, startedAt := {} }

end Entry

namespace Journal

def timeless (journal : Journal) : Journal :=
  { journal with
    entries := journal.entries.map Entry.timeless
    audit := journal.audit.map Entry.timeless }

theorem timeless_ofEntries {first second : List Entry}
    (alike : first.map Entry.timeless = second.map Entry.timeless) :
    (ofEntries first).timeless = (ofEntries second).timeless := by
  have counted (entries : List Entry) :
      (ofEntries entries).failed = (entries.map Entry.timeless).countP Entry.failed := by
    rw [failed_ofEntries, List.countP_map]
    rfl
  unfold timeless
  rw [entries_ofEntries, entries_ofEntries, audit_ofEntries, audit_ofEntries, alike]
  simp only [mk.injEq, true_and]
  rw [counted, counted, alike]

end Journal

namespace Runner

variable {σ : Type}

structure Unmoved (runner : Runner σ) : Prop where
  reply : ∀ request state,
    (runner true request state).1.settled = (runner false request state).1.settled
  state : ∀ request state, (runner true request state).2 = (runner false request state).2

end Runner

namespace Course

variable {σ : Type}

/-- A watched course and one that is not have led to the same, but for the times. -/
structure Alike (watched silent : Course σ) : Prop where
  entries : watched.entries.map Entry.timeless = silent.entries.map Entry.timeless
  requests : watched.requests = silent.requests
  cancelled : watched.cancelled = silent.cancelled
  state : watched.state = silent.state

namespace Alike

theorem refl (course : Course σ) : Alike course course where
  entries := rfl
  requests := rfl
  cancelled := rfl
  state := rfl

theorem andThen {watched silent later quiet : Course σ} (first : Alike watched silent)
    (second : Alike later quiet) :
    Alike (watched.andThen later) (silent.andThen quiet) where
  entries := by
    simp only [Course.andThen, List.map_append, first.entries, second.entries]
  requests := by
    have earlier := first.requests
    have further := second.requests
    unfold Course.requests at *
    simp only [Course.andThen, List.map_append, earlier, further]
  cancelled := second.cancelled
  state := second.state

end Alike

end Course

namespace Executor

variable (executor : Executor) {σ : Type} (runner : Runner σ)

/-! ## The same run without a watcher -/

theorem runAt_alike (unmoved : runner.Unmoved) (index : Nat) (command : Command)
    (cancelled : Bool) (state : σ) :
    Course.Alike (executor.runAt runner true index command cancelled state)
      (executor.runAt runner false index command cancelled state) := by
  cases nameless : command.argv.isEmpty with
  | true => simp [runAt, nameless, Course.Alike.refl]
  | false =>
      cases cancelled with
      | true => simp [runAt, nameless, Course.Alike.refl]
      | false =>
          have replies :=
            unmoved.reply (executor.request (executor.settings.prepare command)) state
          have states :=
            unmoved.state (executor.request (executor.settings.prepare command)) state
          simp only [Reply.settled, Reply.mk.injEq] at replies
          obtain ⟨output, truncated, failure, -, -, -, cancels⟩ := replies
          constructor
          · simp [runAt, nameless, entry, Entry.timeless, output, truncated, failure]
          · simp [runAt, nameless, Course.requests]
          · simpa [runAt, nameless] using cancels
          · simpa [runAt, nameless] using states

theorem runFrom_alike (unmoved : runner.Unmoved) (index : Nat) (commands : List Command)
    (cancelled : Bool) (state : σ) :
    Course.Alike (executor.runFrom runner true index commands cancelled state)
      (executor.runFrom runner false index commands cancelled state) := by
  induction commands generalizing index cancelled state with
  | nil => exact .refl _
  | cons command rest ih =>
      have first := executor.runAt_alike runner unmoved index command cancelled state
      rw [runFrom_cons, runFrom_cons]
      dsimp only
      rw [first.cancelled, first.state]
      exact first.andThen (ih _ _ _)

/-! ## What is shown -/

theorem lines_runAt (watched : Bool) (index : Nat) (command : Command)
    (cancelled : Bool) (state : σ) :
    let course := executor.runAt runner watched index command cancelled state
    course.lines =
      if watched then course.exchanges.flatMap (·.reply.lines) else [] := by
  cases nameless : command.argv.isEmpty with
  | true => simp [runAt, nameless, Course.start]
  | false => cases cancelled <;> simp [runAt, nameless, Course.start]

/-- A watcher sees the lines of every answer in turn; without one nothing is shown. -/
theorem lines_runFrom (watched : Bool) (index : Nat) (commands : List Command)
    (cancelled : Bool) (state : σ) :
    let course := executor.runFrom runner watched index commands cancelled state
    course.lines =
      if watched then course.exchanges.flatMap (·.reply.lines) else [] := by
  induction commands generalizing index cancelled state with
  | nil => simp [runFrom, Course.start]
  | cons command rest ih =>
      have first := executor.lines_runAt runner watched index command cancelled state
      rw [runFrom_cons]
      dsimp only [Course.andThen] at *
      rw [first, ih, List.flatMap_append]
      cases watched <;> rfl

def shownFor (answer : Option Reply) : List Line :=
  (answer.map Reply.lines).getD []

theorem Traced.flatMap_lines {executor : Executor} {start : Nat}
    {commands : List Command} {cancelled : Bool} {answers : List (Option Reply)}
    {exchanges : List Exchange} {entries : List Entry}
    (traced : executor.Traced start commands cancelled answers exchanges entries) :
    exchanges.flatMap (·.reply.lines) = answers.flatMap shownFor := by
  have full := traced.length_answers
  rw [traced.exchanges_eq]
  clear traced
  induction commands generalizing answers with
  | nil => simp [List.length_eq_zero_iff.mp full]
  | cons command rest ih =>
      cases answers with
      | nil => simp at full
      | cons answer others =>
          have later := ih (Nat.succ.inj full)
          cases answer with
          | none => simpa [shownFor] using later
          | some reply => simpa [shownFor] using later

/-- A command that names no program, or that comes too late, is not answered. -/
theorem Traced.unhanded {executor : Executor} {start : Nat} {commands : List Command}
    {cancelled : Bool} {answers : List (Option Reply)} {exchanges : List Exchange}
    {entries : List Entry}
    (traced : executor.Traced start commands cancelled answers exchanges entries)
    {position : Nat} {command : Command} (found : commands[position]? = some command)
    (away : command.argv = [] ∨ ¬Undisturbed cancelled (answers.take position)) :
    answers[position]? = some none := by
  have inside := (List.getElem?_eq_some_iff.mp found).1
  have covered : position < answers.length := traced.length_answers.symm ▸ inside
  have told := List.getElem?_eq_getElem covered
  cases answer : answers[position] with
  | none => rw [told, answer]
  | some reply =>
      rw [answer] at told
      obtain ⟨named, undisturbed⟩ :=
        (traced.handed_iff position command found).mp ⟨reply, told⟩
      rcases away with nameless | disturbed
      · exact absurd nameless named
      · exact absurd undisturbed disturbed

/--
Watching changes nothing.  With a runner that is unmoved by it, a plan that is
watched leads to the same journal as one that is not, but for the times; it makes
the same requests, and leaves the runner in the same state and the run cancelled or
not alike.  The watcher sees the lines that the runner answered with, command by
command in the order of the plan, and none for a command that names no program or
comes after a cancellation.  Without a watcher nothing is shown.
-/
theorem runPlan_watched (unmoved : runner.Unmoved) (plan : Plan) (cancelled : Bool)
    (state : σ) :
    let watched := executor.runPlan runner true plan cancelled state
    let silent := executor.runPlan runner false plan cancelled state
    watched.journal.timeless = silent.journal.timeless ∧
      watched.requests = silent.requests ∧
      watched.cancelled = silent.cancelled ∧ watched.state = silent.state ∧
      silent.lines = [] ∧
      runner.Converses true state watched.exchanges watched.state ∧
      ∃ answers, executor.Traced 0 plan.commands cancelled answers watched.exchanges
          watched.journal.entries ∧
        watched.lines = answers.flatMap shownFor ∧
        ∀ position command, plan.commands[position]? = some command →
          (command.argv = [] ∨ ¬Undisturbed cancelled (answers.take position)) →
          answers[position]? = some none := by
  intro watched silent
  have alike := executor.runFrom_alike runner unmoved 0 plan.commands cancelled state
  obtain ⟨conversed, answers, traced⟩ :=
    executor.runFrom_traced runner true 0 plan.commands cancelled state
  have journaled : watched.journal.entries = watched.entries :=
    Journal.entries_ofEntries _
  refine ⟨Journal.timeless_ofEntries alike.entries, alike.requests, alike.cancelled,
    alike.state, executor.lines_runFrom runner false 0 plan.commands cancelled state,
    conversed, answers, journaled ▸ traced, ?_, ?_⟩
  · have shown := executor.lines_runFrom runner true 0 plan.commands cancelled state
    exact shown.trans traced.flatMap_lines
  · intro position command found away
    exact traced.unhanded found away

/-- A runner that takes longer when it is watched, and is cancelled with the second. -/
def talkative : Runner Nat :=
  fun watched request asked =>
    ({ output := request.argv.render
       failure := if asked = 0 then some (.exit 1) else none
       elapsed := if watched then .ofSeconds 2 else .ofSeconds 1
       lines := if watched then [⟨.stdout, request.argv.render⟩, ⟨.stderr, "!"⟩] else []
       cancels := asked = 1 }, asked + 1)

theorem talkative_watched :
    let plan : Plan :=
      { commands := [{ argv := ["uptime"] }, {}, { argv := ["sync"] }, { argv := ["ls"] }] }
    let watched := ({} : Executor).runPlan talkative true plan false 0
    let silent := ({} : Executor).runPlan talkative false plan false 0
    talkative.Unmoved ∧ watched.journal ≠ silent.journal ∧
      watched.journal.timeless = silent.journal.timeless ∧
      watched.requests.map (·.argv) = [["uptime"], ["sync"]] ∧
      watched.lines = [⟨.stdout, "uptime"⟩, ⟨.stderr, "!"⟩, ⟨.stdout, "sync"⟩, ⟨.stderr, "!"⟩] ∧
      silent.lines = [] := by
  intro plan watched silent
  have unmoved : talkative.Unmoved := ⟨fun _ _ => rfl, fun _ _ => rfl⟩
  obtain ⟨journal, -, -, -, quiet, -, -⟩ :=
    ({} : Executor).runPlan_watched talkative unmoved plan false 0
  exact ⟨unmoved, by decide +kernel, journal, by decide +kernel, by decide +kernel, quiet⟩

end Executor

end PlanGuard
