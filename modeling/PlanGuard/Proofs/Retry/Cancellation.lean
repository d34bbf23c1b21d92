import PlanGuard.Proofs.Executor.Cancellation
import PlanGuard.Proofs.Retry.Accounting

/-!
# Cancelled retries

Whoever cancels a retry, and whenever, nothing is asked and nothing is run after
that.  Between two questions the loops look for themselves; between a question and
its plan the run of the plan does, as it starts out cancelled.  `Heeding` is what
every question preserves, and `Latest` adds that the attempt in progress is the
last.
-/

namespace PlanGuard

namespace Retry

variable {σ : Type}

/-- What comes of an answer heeds a cancellation, and takes note of one. -/
theorem heeds_pursue (retry : Retry σ) (advice : Advice) (cancelled : Bool) (state : σ) :
    let pursued := retry.pursue advice cancelled state
    HeedsCancellation cancelled (pursued.1.exchanges.map .requested) ∧
      pursued.2.1 =
        (cancelled || (pursued.1.exchanges.map .requested).any Event.cancels) := by
  unfold pursue
  cases advice.resolve retry.settings.fixTimeout with
  | error failure => exact ⟨.nil cancelled, (Bool.or_false cancelled).symm⟩
  | ok plan =>
      dsimp only
      cases plan.isEmpty with
      | true => exact ⟨.nil cancelled, (Bool.or_false cancelled).symm⟩
      | false =>
          cases retry.gate.violation? (plan.truncate retry.settings.maxCommands) with
          | some violation => exact ⟨.nil cancelled, (Bool.or_false cancelled).symm⟩
          | none =>
              exact ⟨retry.executor.heeds_runFrom retry.runner false 0 _ cancelled state,
                retry.executor.cancelled_runFrom retry.runner false 0 _ cancelled state⟩

/-- A question that is asked in time heeds a cancellation, and takes note of one. -/
theorem heeds_fixOne (retry : Retry σ) (attempt : Nat) {position : Nat}
    {run : RetryRun σ} {entry : Entry} (live : run.cancelled = false)
    (found : run.journal.entries[position]? = some entry) :
    ∃ tried : Try,
      tried.question.attempt = attempt ∧
        (retry.fixOne attempt position run).tries = run.tries ++ [tried] ∧
        HeedsCancellation false tried.events ∧
        (retry.fixOne attempt position run).cancelled =
          tried.events.any Event.cancels := by
  obtain ⟨tried, asked, -, -, question, -, pursued, made⟩ := retry.fixOne_eq attempt found
  have heeds := retry.heeds_pursue tried.advice (run.cancelled || tried.advice.cancels) asked
  dsimp only at heeds
  rw [← pursued, live, Bool.false_or] at heeds
  refine ⟨tried, by rw [question]; rfl, by rw [made], ?_, ?_⟩
  · refine HeedsCancellation.append (.singleton (.asked tried.question tried.advice)) ?_
    simpa [Event.cancels] using heeds.1
  · rw [made]
    dsimp only
    rw [live, Bool.false_or, heeds.2]
    rfl

/-! ## Runs -/

/-- A run has noted nothing after a cancellation, and knows if there was one. -/
structure Heeding (beforehand : Bool) (run : RetryRun σ) : Prop where
  heeds : HeedsCancellation beforehand (run.tries.flatMap Try.events)
  noticed :
    (beforehand || (run.tries.flatMap Try.events).any Event.cancels) = true →
      run.cancelled = true

/-- A run that is not cancelled has not been so at any moment. -/
theorem Heeding.undisturbed {beforehand : Bool} {run : RetryRun σ}
    (heeding : Heeding beforehand run) (live : run.cancelled = false) :
    (beforehand || (run.tries.flatMap Try.events).any Event.cancels) = false := by
  rw [← Bool.not_eq_true]
  intro disturbed
  rw [heeding.noticed disturbed] at live
  cases live

/--
A run after a number of attempts.  If it was cancelled by an event, the question
asked last belongs to the latest attempt.
-/
structure Latest (beforehand : Bool) (started : Nat) (run : RetryRun σ) : Prop
    extends Heeding beforehand run where
  attempts_eq : run.report.attempts = started
  none_before : beforehand = true → started = 0
  latest : (run.tries.flatMap Try.events).any Event.cancels = true →
    ∃ earlier tried, run.tries = earlier ++ [tried] ∧ tried.question.attempt = started

theorem Latest.fixOne {beforehand : Bool} {started : Nat} {run : RetryRun σ}
    (latest : Latest beforehand started run) (retry : Retry σ)
    (live : run.cancelled = false) {position : Nat} {entry : Entry}
    (found : run.journal.entries[position]? = some entry) :
    Latest beforehand started (retry.fixOne started position run) := by
  obtain ⟨tried, question, tries, heeds, cancelled⟩ :=
    retry.heeds_fixOne started live found
  have undisturbed := latest.undisturbed live
  refine ⟨⟨?_, ?_⟩, ?_, latest.none_before, ?_⟩
  · rw [tries, List.flatMap_append, List.flatMap_singleton]
    exact latest.heeds.append (undisturbed ▸ heeds)
  · rw [tries, List.flatMap_append, List.flatMap_singleton, List.any_append,
      ← Bool.or_assoc, undisturbed, Bool.false_or, cancelled]
    exact id
  · rw [attempts_fixOne]
    exact latest.attempts_eq
  · exact fun _ => ⟨run.tries, tried, tries, question⟩

theorem Latest.round {beforehand : Bool} {started : Nat} {run : RetryRun σ}
    (latest : Latest beforehand started run) (retry : Retry σ)
    (live : run.cancelled = false) :
    Latest beforehand (started + 1) (retry.round (started + 1) run) := by
  have undisturbed := latest.undisturbed live
  obtain ⟨fresh, calm⟩ := Bool.or_eq_false_iff.mp undisturbed
  have tries : (retry.startAttempt (started + 1) run).tries = run.tries := rfl
  refine retry.fixEach_induction (started + 1)
    (fun position entry run latest live found _ => latest.fixOne retry live found)
    _ _ (Journal.nodup_failing _) (fun _ member => member) ?_
  refine ⟨⟨latest.heeds, ?_⟩, rfl, ?_, ?_⟩
  · intro disturbed
    rw [tries, undisturbed] at disturbed
    cases disturbed
  · rw [fresh]
    exact nofun
  · intro disturbed
    rw [tries, calm] at disturbed
    cases disturbed

theorem latest_run (retry : Retry σ) (journal : Journal) (beforehand : Bool)
    (state : σ) :
    ∃ started, Latest beforehand started (retry.run journal beforehand state) := by
  have start : Latest beforehand 0
      ({ journal, cancelled := beforehand, state } : RetryRun σ) := by
    refine ⟨⟨.nil beforehand, ?_⟩, rfl, fun _ => rfl, nofun⟩
    rw [List.flatMap_nil, List.any_nil, Bool.or_false]
    exact id
  obtain ⟨started, -, latest, -⟩ := retry.run_rounds start
    (fun started run latest _ live => latest.round retry live)
    (fun started run latest =>
      ⟨⟨latest.heeds, latest.noticed⟩, latest.attempts_eq, latest.none_before,
        latest.latest⟩)
  exact ⟨started, latest⟩

/-- The attempt during which a run is cancelled is the last, as is its question. -/
theorem attempts_of_cancels (retry : Retry σ) {journal : Journal} {beforehand : Bool}
    {state : σ}
    (disturbed : ∃ event ∈ retry.events journal beforehand state, event.cancels = true) :
    ∃ before question advice after,
      retry.events journal beforehand state = before ++ .asked question advice :: after ∧
        (∀ event ∈ after, ∃ exchange, event = .requested exchange) ∧
        (retry.run journal beforehand state).report.attempts = question.attempt := by
  obtain ⟨started, latest⟩ := retry.latest_run journal beforehand state
  rw [events_eq] at disturbed ⊢
  obtain ⟨earlier, tried, tries, question⟩ := latest.latest (List.any_eq_true.mpr disturbed)
  refine ⟨earlier.flatMap Try.events, tried.question, tried.advice,
    tried.fate.exchanges.map .requested, ?_, ?_, ?_⟩
  · rw [tries, List.flatMap_append, List.flatMap_singleton]
    rfl
  · intro event member
    obtain ⟨exchange, -, rfl⟩ := List.mem_map.mp member
    exact ⟨exchange, rfl⟩
  · rw [latest.attempts_eq, question]

/--
Nothing starts once a run is cancelled, be that before it starts, while a request
is with the runner or while a question is with the planner.

A plan has an entry for every command, watched or not.  A command that is reached
after the cancellation is turned away, with its argv as prepared, or with none if
it has none; and what the commands before it have brought to the runner is all
that the runner sees.  The same holds of a command that is run on its own.

A retry brings nothing more to the planner or the runner either.  It counts the
questions that were asked until then, makes no attempt if it was cancelled
beforehand, and otherwise none after the one that was in progress.  And in
whatever way a run has come to be cancelled, between two questions or two attempts,
the loops then leave it as it is.
-/
theorem nothing_after_cancellation :
    (∀ (σ : Type) (executor : Executor) (runner : Runner σ) (watched : Bool)
      (plan : Plan) (cancelled : Bool) (state : σ),
      HeedsCancellation cancelled
          (executor.events runner watched plan cancelled state) ∧
        (executor.runPlan runner watched plan cancelled state).entries.length =
          plan.commands.length ∧
        ∀ earlier command later, plan.commands = earlier ++ command :: later →
          (cancelled = true ∨
            ∃ event ∈ executor.events runner watched { commands := earlier } cancelled
              state, event.cancels = true) →
          executor.events runner watched plan cancelled state =
              executor.events runner watched { commands := earlier } cancelled state ∧
            (executor.runPlan runner watched plan cancelled
              state).entries[earlier.length]? =
                some (executor.turnedAway earlier.length command)) ∧
    (∀ (σ : Type) (executor : Executor) (runner : Runner σ) (watched : Bool)
      (command : Command) (cancelled : Bool) (state : σ),
      HeedsCancellation cancelled
          (executor.runCommand runner.observed watched command cancelled
            (state, [])).state.2 ∧
        (cancelled = true →
          (executor.runCommand runner watched command cancelled state).entries =
            [executor.turnedAway 0 command])) ∧
    (∀ (σ : Type) (retry : Retry σ) (journal : Journal) (cancelled : Bool) (state : σ),
      HeedsCancellation cancelled (retry.events journal cancelled state) ∧
        (retry.run journal cancelled state).report.requested =
          (retry.events journal cancelled state).countP Event.isQuestion ∧
        (cancelled = true →
          (retry.run journal cancelled state).report.attempts = 0) ∧
        ((∃ event ∈ retry.events journal cancelled state, event.cancels = true) →
          ∃ before question advice after,
            retry.events journal cancelled state =
                before ++ .asked question advice :: after ∧
              (∀ event ∈ after, ∃ exchange, event = .requested exchange) ∧
              (retry.run journal cancelled state).report.attempts =
                question.attempt)) ∧
    ∀ (σ : Type) (retry : Retry σ) (left attempt : Nat) (positions : List Nat)
      (run : RetryRun σ), run.cancelled = true →
      retry.fixEach attempt positions run = run ∧
        retry.attempts left attempt run = run := by
  refine ⟨?_, ?_, ?_, ?_⟩
  · intro σ executor runner watched plan cancelled state
    refine ⟨?_, executor.length_entries_runFrom runner watched 0 _ cancelled state, ?_⟩
    · rw [Executor.events_eq]
      exact executor.heeds_runFrom runner watched 0 _ cancelled state
    · intro earlier command later split stopped
      exact executor.runPlan_of_cancelled runner watched split stopped
  · intro σ executor runner watched command cancelled state
    unfold Executor.runCommand
    constructor
    · rw [Executor.runAt_observed]
      exact executor.heeds_runAt runner watched 0 command cancelled state
    · rintro rfl
      rw [Executor.runAt_cancelled]
  · intro σ retry journal cancelled state
    obtain ⟨started, latest⟩ := retry.latest_run journal cancelled state
    refine ⟨?_, retry.requested_run journal cancelled state, ?_,
      retry.attempts_of_cancels⟩
    · rw [events_eq]
      exact latest.heeds
    · intro beforehand
      rw [latest.attempts_eq, latest.none_before beforehand]
  · intro σ retry left attempt positions run stopped
    exact ⟨retry.fixEach_of_cancelled attempt positions stopped,
      retry.attempts_of_ended left attempt (.inr stopped)⟩

/-- A runner that is cancelled while it stops a service. -/
def stoppable : Runner Unit := fun _ request state =>
  ({ cancels := request.argv == ["stop"] }, state)

/-- A retry that is cancelled by its planner, which answers at once all the same. -/
def dismissed : Retry Unit where
  executor := {}
  gate := {}
  settings := { enabled := true }
  runner := stoppable
  planner := fun _ state =>
    ({ cancels := true, answer := .ok { commands := [{ argv := ["start"] }] } }, state)

/--
Of four commands the last two are turned away, one of them for want of an argv;
and a retry that is cancelled with its first question asks no other.
-/
theorem stoppable_stops :
    (let plan : Plan :=
        { commands := [{ argv := ["start"] }, { argv := ["stop"] }, {}, { argv := ["ls"] }] }
      let course := Executor.runPlan {} stoppable true plan false ()
      course.exchanges.length = 2 ∧
        course.entries[2]? = some (.rejected 2 [] .emptyCommand) ∧
        course.entries[3]? = some (.rejected 3 ["ls"] .cancelled)) ∧
    ∃ before question advice after,
      dismissed.events sampleJournal false () = before ++ .asked question advice :: after ∧
        (∀ event ∈ after, ∃ exchange, event = .requested exchange) ∧
        (dismissed.run sampleJournal false ()).report.attempts = question.attempt ∧
        (dismissed.run sampleJournal false ()).report.requested = 1 := by
  constructor
  · have stopped : ∃ event ∈ Executor.events {} stoppable true
        { commands := [{ argv := ["start"] }, { argv := ["stop"] }] } false (),
        event.cancels = true := by
      decide +kernel
    have stoppedLater : ∃ event ∈ Executor.events {} stoppable true
        { commands := [{ argv := ["start"] }, { argv := ["stop"] }, {}] } false (),
        event.cancels = true := by
      decide +kernel
    have plans := nothing_after_cancellation.1 Unit {} stoppable true
      { commands := [{ argv := ["start"] }, { argv := ["stop"] }, {}, { argv := ["ls"] }] }
      false ()
    exact ⟨by decide +kernel,
      (plans.2.2 [{ argv := ["start"] }, { argv := ["stop"] }] {} [{ argv := ["ls"] }] rfl
        (.inr stopped)).2,
      (plans.2.2 [{ argv := ["start"] }, { argv := ["stop"] }, {}] { argv := ["ls"] } [] rfl
        (.inr stoppedLater)).2⟩
  · have cancels : ∃ event ∈ dismissed.events sampleJournal false (),
        event.cancels = true := by
      decide +kernel
    obtain ⟨before, question, advice, after, log, requests, attempts⟩ :=
      (nothing_after_cancellation.2.2.1 Unit dismissed sampleJournal false ()).2.2.2 cancels
    exact ⟨before, question, advice, after, log, requests, attempts, by decide +kernel⟩

end Retry

end PlanGuard
