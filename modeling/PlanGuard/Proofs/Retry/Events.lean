import PlanGuard.Retry

/-!
# What the world outside sees of a retry

A retry keeps notes of its own: tries and exchanges.  Here the planner and the
runner take notes instead.  `observed` gives each the same behaviour and a list
to which it adds every question and every request that reaches it.  The retry
cannot tell the difference, and what the two have noted is what its tries say.
-/

namespace PlanGuard

inductive Event where
  | asked (question : Question) (advice : Advice)
  | requested (exchange : Exchange)

def Runner.observed {σ : Type} (runner : Runner σ) : Runner (σ × List Event) :=
  fun watched request (state, log) =>
    let (reply, state) := runner watched request state
    (reply, state, log ++ [.requested ⟨request, reply⟩])

def Planner.observed {σ : Type} (planner : Planner σ) :
    Planner (σ × List Event) :=
  fun question (state, log) =>
    let (advice, state) := planner question state
    (advice, state, log ++ [.asked question advice])

/-- What a try says has reached the planner and the runner. -/
def Try.events (tried : Try) : List Event :=
  .asked tried.question tried.advice :: tried.fate.exchanges.map .requested

namespace Try

/-- A question among the events of a try is that of the try, and comes first. -/
theorem asked_of_events {tried : Try} {front back : List Event} {question : Question}
    {advice : Advice}
    (inside : tried.events = front ++ .asked question advice :: back) :
    front = [] ∧ tried.question = question ∧ tried.advice = advice ∧
      back = tried.fate.exchanges.map .requested := by
  unfold events at inside
  cases front with
  | nil =>
      obtain ⟨same, rest⟩ := List.cons.inj inside
      obtain ⟨questions, answers⟩ := Event.asked.inj same
      exact ⟨rfl, questions, answers, rest.symm⟩
  | cons first between =>
      have among : Event.asked question advice ∈ tried.fate.exchanges.map .requested := by
        rw [(List.cons.inj inside).2]
        exact List.mem_append_right between List.mem_cons_self
      obtain ⟨exchange, -, impossible⟩ := List.mem_map.mp among
      cases impossible

theorem requested_of_events {tried : Try} {front back : List Event}
    {exchange : Exchange}
    (inside : tried.events = front ++ .requested exchange :: back) :
    exchange ∈ tried.fate.exchanges ∧
      ∃ between, front = .asked tried.question tried.advice :: between ∧
        ∀ event ∈ between, ∃ other, event = .requested other := by
  unfold events at inside
  cases front with
  | nil => cases (List.cons.inj inside).1
  | cons first between =>
      obtain ⟨asked, requested⟩ := List.cons.inj inside
      constructor
      · have among : Event.requested exchange ∈
            tried.fate.exchanges.map .requested := by
          rw [requested]
          exact List.mem_append_right between List.mem_cons_self
        obtain ⟨same, member, shown⟩ := List.mem_map.mp among
        rwa [← Event.requested.inj shown]
      · refine ⟨between, by rw [asked], ?_⟩
        intro event before
        have among : event ∈ tried.fate.exchanges.map .requested := by
          rw [requested]
          exact List.mem_append_left _ before
        obtain ⟨other, -, shown⟩ := List.mem_map.mp among
        exact ⟨other, shown.symm⟩

theorem head?_events_ne_requested (tries : List Try) (exchange : Exchange) :
    (tries.flatMap events).head? ≠ some (.requested exchange) := by
  cases tries with
  | nil => simp
  | cons tried rest => simp [events]

end Try

def Course.noted {σ : Type} (log : List Event) (course : Course σ) :
    Course (σ × List Event) :=
  { entries := course.entries
    exchanges := course.exchanges
    lines := course.lines
    cancelled := course.cancelled
    state := (course.state, log ++ course.exchanges.map .requested) }

def RetryRun.noted {σ : Type} (log : List Event) (run : RetryRun σ) :
    RetryRun (σ × List Event) :=
  { journal := run.journal
    report := run.report
    tries := run.tries
    cancelled := run.cancelled
    state := (run.state, log ++ run.tries.flatMap Try.events) }

namespace Executor

variable {σ : Type} (executor : Executor) (runner : Runner σ) (watched : Bool)

theorem runAt_observed (index : Nat) (command : Command) (cancelled : Bool)
    (state : σ) (log : List Event) :
    executor.runAt runner.observed watched index command cancelled (state, log) =
      (executor.runAt runner watched index command cancelled state).noted log := by
  unfold runAt
  cases command.argv.isEmpty with
  | true => simp [Course.noted, Course.start]
  | false =>
      cases cancelled with
      | true => simp [Course.noted, Course.start]
      | false => rfl

theorem runFrom_observed (index : Nat) (commands : List Command) (cancelled : Bool)
    (state : σ) (log : List Event) :
    executor.runFrom runner.observed watched index commands cancelled (state, log) =
      (executor.runFrom runner watched index commands cancelled state).noted log := by
  induction commands generalizing index cancelled state log with
  | nil => simp [runFrom, Course.noted, Course.start]
  | cons command rest ih =>
      unfold runFrom
      rw [runAt_observed]
      dsimp only [Course.noted]
      rw [ih]
      simp [Course.noted, Course.andThen]

end Executor

namespace Retry

variable {σ : Type} (retry : Retry σ)

def observed : Retry (σ × List Event) :=
  { executor := retry.executor
    gate := retry.gate
    settings := retry.settings
    runner := retry.runner.observed
    planner := retry.planner.observed
    interrupts := fun attempt state => retry.interrupts attempt state.1 }

theorem pursue_observed (advice : Advice) (cancelled : Bool) (state : σ)
    (log : List Event) :
    retry.observed.pursue advice cancelled (state, log) =
      let (fate, cancelled, state) := retry.pursue advice cancelled state
      (fate, cancelled, state, log ++ fate.exchanges.map .requested) := by
  unfold pursue observed
  cases advice.resolve retry.settings.fixTimeout with
  | error failure => simp [Fate.exchanges]
  | ok plan =>
      dsimp only
      cases plan.isEmpty with
      | true => simp [Fate.exchanges]
      | false =>
          cases retry.gate.violation? (plan.truncate retry.settings.maxCommands) with
          | some violation => simp [Fate.exchanges]
          | none =>
              simp only [Bool.false_eq_true, if_false, Executor.runPlan,
                Executor.runFrom_observed]
              rfl

theorem fixOne_observed (attempt position : Nat) (run : RetryRun σ)
    (log : List Event) :
    retry.observed.fixOne attempt position (run.noted log) =
      (retry.fixOne attempt position run).noted log := by
  unfold fixOne
  cases found : run.journal.entries[position]? with
  | none => simp [RetryRun.noted, found]
  | some entry =>
      simp only [RetryRun.noted, found]
      have asked (question : Question) (log : List Event) :
          retry.observed.planner question (run.state, log) =
            let (advice, state) := retry.planner question run.state
            (advice, state, log ++ [.asked question advice]) := rfl
      simp only [asked, pursue_observed, List.flatMap_append, List.flatMap_singleton,
        Try.events, List.append_assoc, List.singleton_append]

theorem fixEach_observed (attempt : Nat) (positions : List Nat) (run : RetryRun σ)
    (log : List Event) :
    retry.observed.fixEach attempt positions (run.noted log) =
      (retry.fixEach attempt positions run).noted log := by
  induction positions generalizing run with
  | nil => rfl
  | cons position rest ih =>
      unfold fixEach
      cases cancelled : run.cancelled with
      | true => simp [RetryRun.noted, cancelled]
      | false =>
          rw [if_neg Bool.false_ne_true, fixOne_observed, ih]
          simp [RetryRun.noted, cancelled]

theorem attempts_observed (left attempt : Nat) (run : RetryRun σ)
    (log : List Event) :
    retry.observed.attempts left attempt (run.noted log) =
      (retry.attempts left attempt run).noted log := by
  induction left generalizing attempt run with
  | zero => rfl
  | succ left ih =>
      unfold attempts
      have started : retry.observed.startAttempt attempt (run.noted log) =
          (retry.startAttempt attempt run).noted log := rfl
      rw [started, fixEach_observed, ih]
      cases ended : (run.journal.isSuccess || run.cancelled) <;>
        simp [RetryRun.noted, ended]

/-- Taking notes changes nothing but the notes, and these are the tries' events. -/
theorem run_observed (journal : Journal) (cancelled : Bool) (state : σ)
    (log : List Event) :
    retry.observed.run journal cancelled (state, log) =
      (retry.run journal cancelled state).noted log := by
  have start : ({ journal, cancelled, state := (state, log) } :
      RetryRun (σ × List Event)) =
        RetryRun.noted log { journal, cancelled, state } := by
    simp [RetryRun.noted]
  have settings : retry.observed.settings = retry.settings := rfl
  unfold run
  rw [start, settings]
  dsimp only
  cases retry.settings.isActive with
  | true =>
      rw [if_pos rfl, if_pos rfl, attempts_observed]
      rfl
  | false => rfl

/-- What has reached the planner and the runner in a run, in order. -/
def events (journal : Journal) (cancelled : Bool) (state : σ) : List Event :=
  (retry.observed.run journal cancelled (state, [])).state.2

/-- The planner and the runner have noted what the tries say. -/
theorem events_eq (journal : Journal) (cancelled : Bool) (state : σ) :
    retry.events journal cancelled state =
      (retry.run journal cancelled state).tries.flatMap Try.events := by
  unfold events
  rw [run_observed]
  exact List.nil_append _

end Retry

end PlanGuard
