import PlanGuard.Proofs.Cli.Reporting
import PlanGuard.Proofs.Retry.Workload

/-!
# How much work a task can make

A run hands the commands of its plan to the runner, as the plan was cut, and then what
a retry asks for.  No more entries can fail than the plan has commands, and every fix
is cut to the same limit as the plan, so the limits alone bound the whole task.
-/

namespace PlanGuard

theorem Retry.length_requests {σ : Type} (done : RetryRun σ) :
    (Retry.requests done).length =
      (done.tries.flatMap Try.events).countP Event.isRequest := by
  unfold Retry.requests
  rw [countP_isRequest_events, List.length_flatMap]
  simp only [List.length_map]

namespace Cli

variable {σ : Type}

/-- A retry after the first pass goes by the settings, from what the pass has left. -/
theorem retry_runPermitted {surroundings : Surroundings σ} {settings : Settings}
    {options : RunOptions} {plan : Plan} {state : σ} {done : RetryRun σ}
    (made : (runPermitted surroundings settings options plan state).retry = some done) :
    settings.retry.isActive = true ∧ options.fixes ≠ none ∧
      ∃ retry : Retry σ, retry.settings = settings.retry ∧
        let course := firstPass surroundings settings options plan state
        done = retry.run course.journal course.cancelled course.state := by
  unfold runPermitted retryAfter at made
  dsimp only at made
  cases asked : options.fixes with
  | none =>
      rw [asked] at made
      cases made
  | some path =>
      rw [asked] at made
      dsimp only at made
      cases active : settings.retry.isActive with
      | false =>
          rw [active] at made
          cases made
      | true =>
          rw [active, if_pos rfl] at made
          refine ⟨rfl, Option.some_ne_none path, ?_⟩
          split at made
          next => cases made
          next retry found =>
            dsimp only at made
            split at found
            next => cases found
            next table read =>
              rw [made, Except.ok.injEq, Option.some.injEq] at found
              exact ⟨_, rfl, found.symm⟩

theorem length_requests_firstPass_le (surroundings : Surroundings σ) (settings : Settings)
    (options : RunOptions) (plan : Plan) (state : σ) :
    (firstPass surroundings settings options plan state).requests.length ≤
      plan.commands.length := by
  unfold Course.requests
  rw [List.length_map]
  exact Executor.length_exchanges_runFrom_le _ _ _ _ _ _ _

theorem length_failing_firstPass_le (surroundings : Surroundings σ) (settings : Settings)
    (options : RunOptions) (plan : Plan) (state : σ) :
    (firstPass surroundings settings options plan state).journal.failing.length ≤
      plan.commands.length := by
  refine Nat.le_trans (Journal.length_failing_le _) (Nat.le_of_eq ?_)
  unfold Course.journal
  rw [Journal.entries_ofEntries]
  exact Executor.length_entries_runFrom _ _ _ _ _ _ _

/-- The retry after the first pass is within what the limits allow for its failures. -/
theorem length_requests_retry_le {surroundings : Surroundings σ} {settings : Settings}
    {options : RunOptions} {plan : Plan} {state : σ} {done : RetryRun σ}
    (limited : 0 < settings.retry.maxCommands)
    (made : (runPermitted surroundings settings options plan state).retry = some done) :
    (Retry.requests done).length ≤
      settings.retry.maxRetries * plan.commands.length * settings.retry.maxCommands := by
  obtain ⟨-, -, retry, set, rfl⟩ := retry_runPermitted made
  have work := retry.workload_run
    (firstPass surroundings settings options plan state).journal
    (firstPass surroundings settings options plan state).cancelled
    (firstPass surroundings settings options plan state).state
  rw [set] at work
  rw [Retry.length_requests, ← work.noted]
  exact Nat.le_trans (work.requests limited) (Nat.mul_le_mul_right _
    (Nat.mul_le_mul_left _ (length_failing_firstPass_le _ _ _ _ _)))

/-- What a plan that may run makes of work, with its retry and without one. -/
theorem length_requests_runPermitted_le (surroundings : Surroundings σ)
    {settings : Settings} (limited : 0 < settings.retry.maxCommands)
    (options : RunOptions) (plan : Plan) (state : σ) :
    let requests := (runPermitted surroundings settings options plan state).requests
    let most := settings.retry.maxCommands
    requests.length ≤
        plan.commands.length + settings.retry.maxRetries * plan.commands.length * most ∧
      (settings.retry.isActive = false ∨ options.fixes = none →
        requests.length ≤ plan.commands.length) := by
  have first := length_requests_firstPass_le surroundings settings options plan state
  dsimp only
  unfold RunRecord.requests
  rw [course_runPermitted, List.length_append]
  cases made : (runPermitted surroundings settings options plan state).retry with
  | none => exact ⟨Nat.le_add_right_of_le first, fun _ => first⟩
  | some done =>
      refine ⟨Nat.add_le_add first (length_requests_retry_le limited made), ?_⟩
      obtain ⟨active, given, -⟩ := retry_runPermitted made
      rintro (off | none)
      · rw [active] at off
        cases off
      · exact absurd none given

/--
The work is bounded, whatever the planner proposes, whatever the runner answers and
whoever cancels.  A retry with some failures at the start asks no more questions than
attempts are allowed for each of them, and none about anything else, and if plans are
cut, each question brings no more requests than the limit.  A task whose plans are cut
makes no more requests than the limit for its plan, and as many again for each entry
that may fail and each attempt that is allowed; without the retry it makes no more
than the limit.  A task that cannot start makes none.
-/
theorem bounded_work (σ : Type) :
    (∀ (retry : Retry σ) (journal : Journal) (cancelled : Bool) (state : σ),
      Retry.Workload retry.settings journal.failing
        (retry.run journal cancelled state).tries
        (retry.events journal cancelled state)) ∧
    ∀ (surroundings : Surroundings σ) (config : Option String) (path : String)
      (options : RunOptions) (state : σ),
      let requests := (perform surroundings config (.run path options) state).requests
      match outset surroundings config path state with
      | .error _ => requests = []
      | .ok (settings, _) =>
          let most := settings.retry.maxCommands
          0 < most →
            requests.length ≤ most + settings.retry.maxRetries * most * most ∧
              (settings.retry.isActive = false ∨ options.fixes = none →
                requests.length ≤ most) := by
  refine ⟨Retry.workload_run, ?_⟩
  intro surroundings config path options state
  rw [perform_run]
  cases outset surroundings config path state with
  | error complaint => rfl
  | ok start =>
      obtain ⟨settings, given⟩ := start
      dsimp only
      intro limited
      have cut : (taken settings given).commands.length ≤ settings.retry.maxCommands := by
        unfold taken
        rw [Plan.commands_truncate]
        exact Plan.length_kept_le limited given
      unfold run
      dsimp only
      split
      next => exact ⟨Nat.zero_le _, fun _ => Nat.zero_le _⟩
      next =>
        obtain ⟨all, plain⟩ := length_requests_runPermitted_le surroundings limited options
          (taken settings given) state
        refine ⟨Nat.le_trans all ?_, fun off => Nat.le_trans (plain off) cut⟩
        exact Nat.add_le_add cut
          (Nat.mul_le_mul_right _ (Nat.mul_le_mul_left _ cut))

/-- A retry whose planner has long plans, none of which ever helps. -/
def hopeless : Retry Unit where
  executor := {}
  gate := {}
  settings := { enabled := true, maxCommands := 2 }
  runner := fun _ _ state => ({ failure := some (.exit 1) }, state)
  planner := fun _ state =>
    ({ answer := .ok { commands := List.replicate 5 { argv := ["reset"] } } }, state)

/-- Two failures, two attempts and two commands of each plan: the bounds are reached. -/
theorem hopeless_bounded_work :
    let log := hopeless.events Retry.stubbornJournal false ()
    Retry.Workload hopeless.settings [0, 2]
        (hopeless.run Retry.stubbornJournal false ()).tries log ∧
      log.countP Event.isQuestion = 2 * 2 ∧ log.countP Event.isRequest = 2 * 2 * 2 :=
  ⟨(bounded_work Unit).1 hopeless Retry.stubbornJournal false (), by decide +kernel,
    by decide +kernel⟩

end Cli

end PlanGuard
