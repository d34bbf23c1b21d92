import PlanGuard.Proofs.Retry.Accounting
import PlanGuard.Proofs.Retry.Vetting

/-!
# Answers that bring nothing to run

An error, an answer that comes too late, none at all, and a plan without commands all
end a question in the same way, and a retry cannot tell them apart.  Two runs whose
planners differ only in the kind of such advice go through the same states: `Twin` is
what every question preserves of the two.
-/

namespace PlanGuard

namespace Advice

/-- The kinds of advice that bring no plan to run within a limit. -/
inductive Unusable (limit : Duration) (advice : Advice) : Prop where
  | refused {reason : String} (answered : advice.answer = .error reason)
  | late {delay : Duration} (comes : advice.delay = some delay)
      (late : limit.toNanos < delay.toNanos)
  | never (silent : advice.delay = none)
  | empty {plan : Plan} (answered : advice.answer = .ok plan)
      (nothing : plan.commands = [])

/-- A plan that comes of advice has come within the limit. -/
theorem delay_of_resolve {limit : Duration} {advice : Advice} {plan : Plan}
    (resolved : advice.resolve limit = .ok plan) :
    ∃ delay, advice.delay = some delay ∧ delay.toNanos ≤ limit.toNanos := by
  unfold resolve at resolved
  dsimp only at resolved
  split at resolved
  next => cases resolved
  next =>
    split at resolved
    next => cases resolved
    next delay comes =>
      split at resolved
      next => cases resolved
      next within => exact ⟨delay, comes, Nat.le_of_not_lt within⟩

theorem Unusable.commands_eq_nil {limit : Duration} {advice : Advice} {plan : Plan}
    (unusable : advice.Unusable limit) (resolved : advice.resolve limit = .ok plan) :
    plan.commands = [] := by
  have answer := answer_of_resolve resolved
  obtain ⟨delay, came, within⟩ := delay_of_resolve resolved
  cases unusable with
  | refused answered =>
      rw [answered] at answer
      cases answer
  | late comes late =>
      rw [came, Option.some.injEq] at comes
      rw [← comes] at late
      exact absurd within (Nat.not_le_of_lt late)
  | never silent =>
      rw [came] at silent
      cases silent
  | empty answered nothing =>
      rw [answered, Except.ok.injEq] at answer
      exact answer ▸ nothing

/-- Advice without a plan to run is of one of these kinds, unless the run is cancelled. -/
theorem unusable_of_resolve {limit : Duration} {advice : Advice}
    (stays : advice.cancels = false)
    (nothing : ∀ plan, advice.resolve limit = .ok plan → plan.commands = []) :
    advice.Unusable limit := by
  unfold resolve at nothing
  simp only [stays, Bool.false_and, Bool.false_eq_true, if_false] at nothing
  cases comes : advice.delay with
  | none => exact .never comes
  | some delay =>
      rw [comes] at nothing
      by_cases late : limit.toNanos < delay.toNanos
      · exact .late comes late
      · cases answered : advice.answer with
        | error reason => exact .refused answered
        | ok plan =>
            refine .empty answered (nothing plan ?_)
            dsimp only
            rw [if_neg late, answered]

/-- The same advice, or unusable advice in the place of other such advice. -/
inductive Alike (limit : Duration) : Advice → Advice → Prop where
  | same (advice : Advice) : Alike limit advice advice
  | unusable {first second : Advice} (here : first.Unusable limit)
      (there : second.Unusable limit) (cancels : first.cancels = second.cancels) :
      Alike limit first second

theorem Alike.cancels_eq {limit : Duration} {first second : Advice}
    (alike : Alike limit first second) : first.cancels = second.cancels := by
  cases alike with
  | same => rfl
  | unusable here there cancels => exact cancels

end Advice

def Try.unadvised (tried : Try) : Try :=
  { tried with advice := {} }

def Event.unadvised : Event → Event
  | .asked question _ => .asked question {}
  | .requested exchange => .requested exchange

namespace Retry

variable {σ : Type}

/-! ## One question -/

/-- Unusable advice ends a question, and nothing else comes of it. -/
theorem pursue_of_unusable (retry : Retry σ) {advice : Advice}
    (unusable : advice.Unusable retry.settings.fixTimeout) (cancelled : Bool)
    (state : σ) : retry.pursue advice cancelled state = (.unavailable, cancelled, state) := by
  unfold pursue
  cases resolved : advice.resolve retry.settings.fixTimeout with
  | error failure => rfl
  | ok plan =>
      have empty : plan.isEmpty = true :=
        List.isEmpty_iff.mpr (unusable.commands_eq_nil resolved)
      dsimp only
      rw [if_pos empty]

theorem Outcome.of_unusable {retry : Retry σ} {advice : Advice} {fate : Fate}
    (outcome : retry.Outcome advice fate)
    (unusable : advice.Unusable retry.settings.fixTimeout) : fate = .unavailable := by
  cases outcome with
  | unavailable => rfl
  | rejected answered nonempty => exact absurd (unusable.commands_eq_nil answered) nonempty
  | ran answered nonempty => exact absurd (unusable.commands_eq_nil answered) nonempty

/-- A question ends without a plan to run exactly if the advice is unusable. -/
theorem Outcome.unavailable_iff {retry : Retry σ} {advice : Advice} {fate : Fate}
    (outcome : retry.Outcome advice fate) (stays : advice.cancels = false) :
    fate = .unavailable ↔ advice.Unusable retry.settings.fixTimeout := by
  constructor
  · rintro rfl
    cases outcome with
    | unavailable unusable => exact Advice.unusable_of_resolve stays unusable
  · exact outcome.of_unusable

/-- What comes of advice that is alike is the same. -/
theorem pursue_of_alike (retry : Retry σ) {first second : Advice}
    (alike : Advice.Alike retry.settings.fixTimeout first second) (cancelled : Bool)
    (state : σ) :
    retry.pursue first cancelled state = retry.pursue second cancelled state := by
  cases alike with
  | same => rfl
  | unusable here there =>
      rw [retry.pursue_of_unusable here, retry.pursue_of_unusable there]

/-! ## Two runs -/

def advisedBy (retry : Retry σ) (planner : Planner σ) : Retry σ :=
  { retry with planner }

/-- A planner whose advice is alike, and that moves on in the same way. -/
structure Mimics (retry : Retry σ) (planner : Planner σ) : Prop where
  alike : ∀ question state,
    Advice.Alike retry.settings.fixTimeout (retry.planner question state).1
      (planner question state).1
  moves : ∀ question state,
    (retry.planner question state).2 = (planner question state).2

/-- Two runs that differ only in the advice of their tries. -/
structure Twin (first second : RetryRun σ) : Prop where
  journal : first.journal = second.journal
  report : first.report = second.report
  tries : first.tries.map Try.unadvised = second.tries.map Try.unadvised
  cancelled : first.cancelled = second.cancelled
  state : first.state = second.state

namespace Twin

variable {first second : RetryRun σ} {retry : Retry σ} {planner : Planner σ}

/-- What is read from the tries without their advice is the same. -/
theorem flatMap_eq (twin : Twin first second) {α : Type} {read : Try → List α}
    (blind : ∀ tried, read tried.unadvised = read tried) :
    first.tries.flatMap read = second.tries.flatMap read := by
  have erased (tries : List Try) :
      tries.flatMap read = (tries.map Try.unadvised).flatMap read := by
    rw [List.flatMap_map]
    exact List.flatMap_congr fun tried _ => (blind tried).symm
  rw [erased first.tries, twin.tries, ← erased second.tries]

theorem events (twin : Twin first second) :
    (first.tries.flatMap Try.events).map Event.unadvised =
      (second.tries.flatMap Try.events).map Event.unadvised := by
  rw [List.map_flatMap, List.map_flatMap]
  exact twin.flatMap_eq fun _ => rfl

theorem requests (twin : Twin first second) :
    Retry.requests first = Retry.requests second :=
  twin.flatMap_eq fun _ => rfl

theorem fixOne (mimics : retry.Mimics planner) (twin : Twin first second)
    (attempt position : Nat) :
    Twin (retry.fixOne attempt position first)
      ((retry.advisedBy planner).fixOne attempt position second) := by
  cases found : first.journal.entries[position]? with
  | none =>
      have foundToo := found
      rw [twin.journal] at foundToo
      unfold Retry.fixOne
      rw [found, foundToo]
      exact ⟨twin.journal, by rw [twin.report], twin.tries, twin.cancelled, twin.state⟩
  | some entry =>
      have foundToo := found
      rw [twin.journal] at foundToo
      -- Both planners are asked the same question in the same state.
      have alike := mimics.alike (entry.question attempt) second.state
      have moves := mimics.moves (entry.question attempt) second.state
      have pursued :
          retry.pursue (retry.planner (entry.question attempt) second.state).1
              (second.cancelled ||
                (retry.planner (entry.question attempt) second.state).1.cancels)
              (retry.planner (entry.question attempt) second.state).2 =
            (retry.advisedBy planner).pursue (planner (entry.question attempt) second.state).1
              (second.cancelled || (planner (entry.question attempt) second.state).1.cancels)
              (planner (entry.question attempt) second.state).2 := by
        rw [alike.cancels_eq, moves]
        exact retry.pursue_of_alike alike _ _
      rw [retry.fixOne_of_advised found rfl,
        (retry.advisedBy planner).fixOne_of_advised foundToo rfl]
      dsimp only
      rw [twin.journal, twin.report, twin.cancelled, twin.state, pursued]
      refine ⟨rfl, rfl, ?_, rfl, rfl⟩
      rw [List.map_append, List.map_append, twin.tries]
      rfl

theorem fixEach (mimics : retry.Mimics planner) (twin : Twin first second)
    (attempt : Nat) (positions : List Nat) :
    Twin (retry.fixEach attempt positions first)
      ((retry.advisedBy planner).fixEach attempt positions second) := by
  induction positions generalizing first second with
  | nil => exact twin
  | cons position rest ih =>
      unfold Retry.fixEach
      rw [twin.cancelled]
      split
      · exact twin
      · exact ih (twin.fixOne mimics attempt position)

theorem startAttempt (twin : Twin first second) (attempt : Nat) :
    Twin (retry.startAttempt attempt first)
      ((retry.advisedBy planner).startAttempt attempt second) := by
  refine ⟨twin.journal, ?_, twin.tries, ?_, twin.state⟩
  · unfold Retry.startAttempt
    rw [twin.report]
  · unfold Retry.startAttempt
    rw [twin.cancelled, twin.state]
    rfl

theorem attempts (mimics : retry.Mimics planner) (twin : Twin first second)
    (left attempt : Nat) :
    Twin (retry.attempts left attempt first)
      ((retry.advisedBy planner).attempts left attempt second) := by
  induction left generalizing attempt first second with
  | zero => exact twin
  | succ left ih =>
      unfold Retry.attempts
      rw [twin.journal, twin.cancelled]
      split
      · exact twin
      · exact ih ((twin.startAttempt attempt).fixEach mimics attempt _) (attempt + 1)

end Twin

/-- A retry and the same with a planner that mimics its own have twin runs. -/
theorem Mimics.run {retry : Retry σ} {planner : Planner σ} (mimics : retry.Mimics planner)
    (journal : Journal) (cancelled : Bool) (state : σ) :
    Twin (retry.run journal cancelled state)
      ((retry.advisedBy planner).run journal cancelled state) := by
  have start : Twin ({ journal, cancelled, state } : RetryRun σ)
      { journal, cancelled, state } := ⟨rfl, rfl, rfl, rfl, rfl⟩
  have allowed : (retry.advisedBy planner).settings = retry.settings := rfl
  unfold Retry.run
  rw [allowed]
  dsimp only
  split
  · have twin := start.attempts mimics retry.settings.maxRetries 1
    exact ⟨twin.journal, by rw [twin.report, twin.journal], twin.tries, twin.cancelled,
      twin.state⟩
  · exact ⟨rfl, rfl, rfl, rfl, rfl⟩

/-! ## Answers by the number of the question -/

def answering (retry : Retry σ) (answers : Nat → Advice) : Retry (σ × Nat) where
  executor := retry.executor
  gate := retry.gate
  settings := retry.settings
  runner := fun watched request (state, asked) =>
    let (reply, state) := retry.runner watched request state
    (reply, state, asked)
  planner := fun _ (state, asked) => (answers asked, state, asked + 1)
  interrupts := fun attempt (state, _) => retry.interrupts attempt state

/-- The tries of a run are given the answers in turn: the planner counts the tries. -/
theorem answered_in_turn (retry : Retry σ) (answers : Nat → Advice)
    (journal : Journal) (cancelled : Bool) (state : σ) :
    let done := (retry.answering answers).run journal cancelled (state, 0)
    done.state.2 = done.tries.length ∧
      done.tries.map (·.advice) = (List.range done.tries.length).map answers := by
  refine (retry.answering answers).run_induction
    (P := fun run => run.state.2 = run.tries.length ∧
      run.tries.map (·.advice) = (List.range run.tries.length).map answers)
    ⟨rfl, rfl⟩ (fun _ _ holds => holds) ?_ (fun _ holds => holds)
  rintro attempt position entry run ⟨number, given⟩ - found -
  obtain ⟨tried, asked, -, -, -, advised, -, made⟩ :=
    (retry.answering answers).fixOne_eq attempt found
  obtain ⟨advice, moved⟩ := Prod.mk.inj advised
  have counted : asked.2 = run.tries.length + 1 := by
    rw [← moved, ← number]
  have kept := (retry.answering answers).pursue_keeps
    (P := fun later => later.2 = run.tries.length + 1) (fun _ _ _ holds => holds)
    tried.advice (run.cancelled || tried.advice.cancels) counted
  rw [made]
  dsimp only
  rw [List.length_append, List.length_singleton]
  refine ⟨kept, ?_⟩
  rw [List.map_append, List.map_singleton, given, ← advice, number, List.range_succ,
    List.map_append, List.map_singleton]

/-- A question that brings unusable advice is counted, and nothing else happens. -/
theorem fixOne_of_unusable (retry : Retry σ) {attempt position : Nat}
    {run : RetryRun σ} {entry : Entry} {advice : Advice} {asked : σ}
    (found : run.journal.entries[position]? = some entry)
    (advised : retry.planner (entry.question attempt) run.state = (advice, asked))
    (unusable : advice.Unusable retry.settings.fixTimeout)
    (stays : advice.cancels = false) :
    retry.fixOne attempt position run =
      { run with
        report := { run.report with
          requested := run.report.requested + 1
          unavailable := run.report.unavailable + 1 }
        tries := run.tries ++
          [{ position, entry, advice
             question := entry.question attempt
             fate := .unavailable }]
        state := asked } := by
  rw [retry.fixOne_of_advised found advised, retry.pursue_of_unusable unusable, stays,
    Bool.or_false]
  rfl

/--
A retry cannot tell one kind of unusable advice from another.  Let two planners give
answers by the number of the question, the same ones but for unusable answers in the
place of unusable ones.  Then the same questions and requests reach the planner and
the runner in the same order, and the journals, the reports and the states at the end
are the same.  The tries are given the answers in turn; a try whose answer does not
cancel the run is without a plan exactly if the answer is unusable, the report counts
each of these once, and none writes anything into the journal.  Wherever an attempt is,
such an answer adds one question without a plan to the report and a try without a mark,
and the attempt goes on with the rest of its positions.
-/
theorem unusable_answers_alike (retry : Retry σ) {answers others : Nat → Advice}
    (alike : ∀ number,
      Advice.Alike retry.settings.fixTimeout (answers number) (others number))
    (journal : Journal) (cancelled : Bool) (state : σ) :
    let limit := retry.settings.fixTimeout
    let noted (answers : Nat → Advice) :=
      (retry.answering answers).events journal cancelled (state, 0)
    let done := (retry.answering answers).run journal cancelled (state, 0)
    let other := (retry.answering others).run journal cancelled (state, 0)
    (noted answers).map Event.unadvised = (noted others).map Event.unadvised ∧
      Retry.requests done = Retry.requests other ∧
      done.journal = other.journal ∧ done.report = other.report ∧
      done.cancelled = other.cancelled ∧ done.state = other.state ∧
      done.report.unavailable = done.tries.countP (fun tried => tried.fate.fruitless) ∧
      (∀ earlier tried later, done.tries = earlier ++ tried :: later →
        tried.advice = answers earlier.length ∧
          (tried.advice.cancels = false →
            (tried.fate = .unavailable ↔ tried.advice.Unusable limit)) ∧
          (tried.advice.Unusable limit → tried.fate = .unavailable ∧
            journal.replay (earlier ++ [tried]) = journal.replay earlier)) ∧
      ∀ (attempt position : Nat) (rest : List Nat) (entry : Entry)
        (run : RetryRun (σ × Nat)),
        run.cancelled = false → run.journal.entries[position]? = some entry →
        (answers run.state.2).Unusable limit → (answers run.state.2).cancels = false →
        (retry.answering answers).fixEach attempt (position :: rest) run =
          (retry.answering answers).fixEach attempt rest
            { run with
              report := { run.report with
                requested := run.report.requested + 1
                unavailable := run.report.unavailable + 1 }
              tries := run.tries ++
                [{ position, entry
                   question := entry.question attempt
                   advice := answers run.state.2
                   fate := .unavailable }]
              state := (run.state.1, run.state.2 + 1) } := by
  dsimp only
  have mimics : (retry.answering answers).Mimics (retry.answering others).planner :=
    ⟨fun _ state => alike state.2, fun _ _ => rfl⟩
  have twin := mimics.run journal cancelled (state, 0)
  change Twin _ ((retry.answering others).run journal cancelled (state, 0)) at twin
  refine ⟨?_, twin.requests, twin.journal, twin.report, twin.cancelled, twin.state, ?_, ?_,
    ?_⟩
  · rw [events_eq, events_eq]
    exact twin.events
  · rw [report_run]
    rfl
  · intro earlier tried later split
    obtain ⟨chronicle, -⟩ :=
      (retry.answering answers).run_chronicle journal cancelled (state, 0)
    obtain ⟨-, given⟩ := retry.answered_in_turn answers journal cancelled state
    rw [split] at chronicle given
    have outcome := chronicle.fits.outcome
    refine ⟨?_, outcome.unavailable_iff, ?_⟩
    · have here := congrArg (·[earlier.length]?) given
      simpa using here
    · intro unusable
      have fate := outcome.of_unusable unusable
      refine ⟨fate, ?_⟩
      rw [Journal.replay_snoc]
      unfold Journal.absorb
      rw [fate]
      rfl
  · intro attempt position rest entry run live found unusable stays
    have going : ¬ run.cancelled = true := by
      rw [live]
      exact Bool.false_ne_true
    rw [fixEach, if_neg going,
      (retry.answering answers).fixOne_of_unusable found rfl unusable stays]

/-- Restarts a service, but only if it is asked for the second time or later. -/
def reluctant (first : Advice) (number : Nat) : Advice :=
  if number = 0 then first
  else { answer := .ok { commands := [{ argv := ["restart"] }] } }

/-- Whether the first answer is an error or never comes, the second attempt fixes it. -/
theorem reluctant_alike :
    let refusing := reluctant { answer := .error "busy" }
    let silent := reluctant { delay := none }
    ((stubborn.answering refusing).run stubbornJournal false ((), 0)).report =
        ((stubborn.answering silent).run stubbornJournal false ((), 0)).report ∧
      ((stubborn.answering refusing).run stubbornJournal false ((), 0)).report =
        { attempts := 2, requested := 3, applied := 2, unavailable := 1 } := by
  have alike (number : Nat) : Advice.Alike stubborn.settings.fixTimeout
      (reluctant { answer := .error "busy" } number)
      (reluctant { delay := none } number) := by
    unfold reluctant
    split
    · exact .unusable (.refused rfl) (.never rfl) rfl
    · exact .same _
  obtain ⟨-, -, -, report, -⟩ :=
    unusable_answers_alike stubborn alike stubbornJournal false ()
  exact ⟨report, by decide +kernel⟩

end Retry

end PlanGuard
