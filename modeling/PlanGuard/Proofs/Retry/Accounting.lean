import PlanGuard.Proofs.Retry.Chronicle
import PlanGuard.Proofs.Retry.Events

/-!
# What the report of a retry adds up to

Every question is counted once by what became of it, and a fix that is applied
takes one failure away for good.  That the failures left are those at the start
without the fixes applied rests on `Tallied`, which every question preserves as
it is about an entry that still fails.  `Paced` adds what an attempt can do to the
number of questions.
-/

namespace PlanGuard

def Event.isQuestion : Event → Bool
  | .asked _ _ => true
  | .requested _ => false

theorem countP_isQuestion_events (tries : List Try) :
    (tries.flatMap Try.events).countP Event.isQuestion = tries.length := by
  induction tries with
  | nil => rfl
  | cons tried rest ih =>
      have requests : (tried.fate.exchanges.map Event.requested).countP
          Event.isQuestion = 0 := by
        rw [List.countP_map, List.countP_eq_zero]
        intro exchange _
        exact Bool.false_ne_true
      rw [List.flatMap_cons, List.countP_append, ih, List.length_cons, Nat.add_comm]
      unfold Try.events
      rw [List.countP_cons, requests]
      rfl

def Fate.applied (fate : Fate) : Bool :=
  match fate.fix? with
  | some fix => fix.isSuccess
  | none => false

def Fate.botched (fate : Fate) : Bool :=
  match fate.fix? with
  | some fix => !fix.isSuccess
  | none => false

def Fate.objected : Fate → Bool
  | .rejected _ => true
  | _ => false

/-- A question that has brought no plan. -/
def Fate.fruitless : Fate → Bool
  | .unavailable => true
  | _ => false

namespace RetryReport

/-- The questions by what became of them. -/
def settled (report : RetryReport) : Nat :=
  report.applied + report.failed + report.rejected + report.unavailable

def ofTries (tries : List Try) : RetryReport :=
  { requested := tries.length
    applied := tries.countP fun tried => tried.fate.applied
    failed := tries.countP fun tried => tried.fate.botched
    rejected := tries.countP fun tried => tried.fate.objected
    unavailable := tries.countP fun tried => tried.fate.fruitless }

theorem ofTries_snoc (tries : List Try) (tried : Try) :
    ofTries (tries ++ [tried]) = (ofTries tries).count tried.fate := by
  unfold ofTries count
  simp only [List.length_append, List.countP_append, List.countP_singleton,
    List.length_singleton]
  cases fate : tried.fate with
  | unavailable => rfl
  | rejected => rfl
  | ran plan fix exchanges =>
      unfold Fate.applied Fate.botched Fate.objected Fate.fruitless Fate.fix?
      cases success : fix.isSuccess <;> simp [success]

/-- Counting a question leaves the attempts and the remaining failures alone. -/
theorem count_with (report : RetryReport) (fate : Fate) (attempts remaining : Nat) :
    ({ report with attempts, remaining } : RetryReport).count fate =
      { report.count fate with attempts, remaining } := by
  unfold count
  cases fate with
  | unavailable => rfl
  | rejected => rfl
  | ran plan fix exchanges => cases success : fix.isSuccess <;> simp [success]

@[simp] theorem attempts_count (report : RetryReport) (fate : Fate) :
    (report.count fate).attempts = report.attempts := by
  unfold count
  cases fate with
  | unavailable => rfl
  | rejected => rfl
  | ran plan fix exchanges => dsimp only; split <;> rfl

@[simp] theorem requested_count (report : RetryReport) (fate : Fate) :
    (report.count fate).requested = report.requested + 1 := by
  unfold count
  cases fate with
  | unavailable => rfl
  | rejected => rfl
  | ran plan fix exchanges => dsimp only; split <;> rfl

theorem settled_count (report : RetryReport) (fate : Fate) :
    (report.count fate).settled = report.settled + 1 := by
  unfold count settled
  cases fate with
  | unavailable => rfl
  | rejected => dsimp only; omega
  | ran plan fix exchanges => dsimp only; split <;> dsimp only <;> omega

theorem applied_count (report : RetryReport) (fate : Fate) :
    (report.count fate).applied = report.applied + fate.applied.toNat := by
  unfold count Fate.applied Fate.fix?
  cases fate with
  | unavailable => rfl
  | rejected => rfl
  | ran plan fix exchanges => dsimp only; split <;> simp [*]

end RetryReport

namespace Retry

variable {σ : Type}

/-! ## Every question is counted once -/

structure Tallied (start : Journal) (run : RetryRun σ) : Prop where
  counted : run.journal.Counted
  /-- A failure is left, or a fix for it was applied. -/
  balanced : run.journal.failed + run.report.applied = start.failed
  settled_eq : run.report.requested = run.report.settled

theorem Tallied.fixOne {start : Journal} {run : RetryRun σ} (tallied : Tallied start run)
    (retry : Retry σ) (attempt : Nat) {position : Nat} {entry : Entry}
    (found : run.journal.entries[position]? = some entry)
    (failed : entry.failed = true) :
    Tallied start (retry.fixOne attempt position run) := by
  obtain ⟨tried, asked, here, -, -, -, pursued, made⟩ := retry.fixOne_eq attempt found
  have counted : tried.Counted := by
    intro fix ran
    rw [pursued] at ran
    exact (outcome_pursue retry _ _ _).counted fix ran
  have absorbed : (run.journal.absorb tried).Counted ∧
      (run.journal.absorb tried).failed + tried.fate.applied.toNat =
        run.journal.failed := by
    unfold Journal.absorb Fate.applied
    rw [here]
    cases ran : tried.fate.fix? with
    | none => exact ⟨tallied.counted, rfl⟩
    | some fix =>
        exact ⟨tallied.counted.mergeFix position fix,
          tallied.counted.failed_mergeFix (counted fix ran) found failed⟩
  rw [made]
  refine ⟨absorbed.1, ?_, ?_⟩
  · rw [RetryReport.applied_count, ← tallied.balanced, ← absorbed.2]
    dsimp only
    omega
  · rw [RetryReport.requested_count, RetryReport.settled_count, tallied.settled_eq]

/-! ## The questions of an attempt -/

@[simp] theorem attempts_fixOne (retry : Retry σ) (attempt position : Nat)
    (run : RetryRun σ) :
    (retry.fixOne attempt position run).report.attempts = run.report.attempts := by
  unfold fixOne
  cases run.journal.entries[position]? <;> simp

@[simp] theorem requested_fixOne (retry : Retry σ) (attempt position : Nat)
    (run : RetryRun σ) :
    (retry.fixOne attempt position run).report.requested =
      run.report.requested + 1 := by
  unfold fixOne
  cases run.journal.entries[position]? <;> simp

theorem requested_run (retry : Retry σ) (journal : Journal) (cancelled : Bool)
    (state : σ) :
    (retry.run journal cancelled state).report.requested =
      (retry.events journal cancelled state).countP Event.isQuestion := by
  rw [events_eq, countP_isQuestion_events]
  refine retry.run_induction
    (P := fun run => run.report.requested = run.tries.length)
    rfl (fun _ _ holds => holds) ?_ (fun _ holds => holds)
  intro attempt position entry run holds _ found _
  obtain ⟨tried, -, -, -, -, -, tries, -⟩ := retry.fixOne_of_found attempt found
  rw [requested_fixOne, tries, List.length_append, holds]
  rfl

theorem report_run (retry : Retry σ) (journal : Journal) (cancelled : Bool) (state : σ) :
    let done := retry.run journal cancelled state
    done.report =
      { RetryReport.ofTries done.tries with
        attempts := done.report.attempts, remaining := done.report.remaining } := by
  refine retry.run_induction
    (P := fun run => run.report =
      { RetryReport.ofTries run.tries with
        attempts := run.report.attempts, remaining := run.report.remaining })
    rfl ?_ ?_ ?_
  · intro attempt run holds
    unfold startAttempt
    rw [holds]
  · intro attempt position entry run holds _ found _
    obtain ⟨tried, asked, -, -, -, -, -, made⟩ := retry.fixOne_eq attempt found
    rw [made]
    dsimp only
    rw [RetryReport.ofTries_snoc, holds, RetryReport.count_with]
  · intro run holds
    dsimp only
    rw [holds]

theorem attempts_fixEach (retry : Retry σ) (attempt : Nat) (positions : List Nat)
    (run : RetryRun σ) :
    (retry.fixEach attempt positions run).report.attempts = run.report.attempts := by
  induction positions generalizing run with
  | nil => rfl
  | cons position rest ih =>
      unfold fixEach
      split
      · rfl
      · rw [ih, attempts_fixOne]

theorem requested_fixEach_le (retry : Retry σ) (attempt : Nat) (positions : List Nat)
    (run : RetryRun σ) :
    (retry.fixEach attempt positions run).report.requested ≤
      run.report.requested + positions.length := by
  induction positions generalizing run with
  | nil => exact Nat.le_refl _
  | cons position rest ih =>
      unfold fixEach
      split
      · exact Nat.le_add_right _ _
      · have later := ih (retry.fixOne attempt position run)
        rw [requested_fixOne] at later
        rw [List.length_cons]
        omega

theorem requested_le_fixEach (retry : Retry σ) (attempt : Nat) (positions : List Nat)
    (run : RetryRun σ) :
    run.report.requested ≤ (retry.fixEach attempt positions run).report.requested := by
  induction positions generalizing run with
  | nil => exact Nat.le_refl _
  | cons position rest ih =>
      unfold fixEach
      split
      · exact Nat.le_refl _
      · have later := ih (retry.fixOne attempt position run)
        rw [requested_fixOne] at later
        omega

/-- A walk that is not cancelled asks about its first position. -/
theorem requested_lt_fixEach (retry : Retry σ) (attempt : Nat) {positions : List Nat}
    {run : RetryRun σ} (some : positions ≠ []) (live : run.cancelled = false) :
    run.report.requested < (retry.fixEach attempt positions run).report.requested := by
  cases positions with
  | nil => exact absurd rfl some
  | cons position rest =>
      unfold fixEach
      rw [live, if_neg Bool.false_ne_true]
      have later := retry.requested_le_fixEach attempt rest
        (retry.fixOne attempt position run)
      rw [requested_fixOne] at later
      exact later

structure Paced (retry : Retry σ) (start : Journal) (started : Nat)
    (run : RetryRun σ) : Prop extends Tallied start run where
  attempts_eq : run.report.attempts = started
  few : run.report.requested ≤ started * start.failed
  /-- Only an interruption can leave an attempt without a question. -/
  enough : (∀ attempt state, retry.interrupts attempt state = false) →
    started ≤ run.report.requested

theorem Paced.round {retry : Retry σ} {start : Journal} {started : Nat}
    {run : RetryRun σ} (paced : retry.Paced start started run)
    (unfinished : run.journal.isSuccess = false) (live : run.cancelled = false) :
    retry.Paced start (started + 1) (retry.round (started + 1) run) := by
  have failing := paced.counted.length_failing
  refine ⟨?_, ?_, ?_, ?_⟩
  · exact retry.round_induction
      (fun _ _ tallied =>
        ⟨tallied.counted, tallied.balanced, tallied.settled_eq⟩)
      (fun attempt _ _ _ tallied _ found failed =>
        tallied.fixOne retry attempt found failed)
      (started + 1) run paced.toTallied
  · exact retry.attempts_fixEach _ _ _
  · have bound := retry.requested_fixEach_le (started + 1) run.journal.failing
      (retry.startAttempt (started + 1) run)
    have balanced := paced.balanced
    have few := paced.few
    have before : (retry.startAttempt (started + 1) run).report.requested =
      run.report.requested := rfl
    rw [Nat.succ_mul]
    unfold Retry.round
    omega
  · intro quiet
    have some : run.journal.failing ≠ [] := by
      intro none
      rw [none, List.length_nil] at failing
      unfold Journal.isSuccess at unfinished
      rw [← failing] at unfinished
      cases unfinished
    have going : (retry.startAttempt (started + 1) run).cancelled = false := by
      unfold startAttempt
      rw [live, quiet]
      rfl
    exact Nat.lt_of_le_of_lt (paced.enough quiet)
      (retry.requested_lt_fixEach (started + 1) some going)

/-! ## The report -/

/-- How a report tells of the journals before and after, and of the questions. -/
structure Accounts (settings : RetrySettings) (before after : Journal)
    (questions : Nat) (report : RetryReport) : Prop where
  settled : report.requested =
    report.applied + report.failed + report.rejected + report.unavailable
  asked : report.requested = questions
  remaining : report.remaining = after.failed
  /-- No more failures are cleared than there were. -/
  cleared : report.applied ≤ before.failed ∧
    report.remaining = before.failed - report.applied
  attempts_le : report.attempts ≤ settings.maxRetries
  requested_le : report.requested ≤ report.attempts * before.failed

/-- A retry that is off, or finds nothing that fails, leaves all as it is. -/
theorem run_of_idle (retry : Retry σ) {journal : Journal} (cancelled : Bool) (state : σ)
    (idle : retry.settings.isActive = false ∨ journal.failed = 0) :
    retry.run journal cancelled state =
      { journal, report := { remaining := journal.failed }, cancelled, state } := by
  unfold run
  cases active : retry.settings.isActive with
  | false => rfl
  | true =>
      have nothing : journal.isSuccess = true := by
        rcases idle with off | none
        · rw [active] at off
          cases off
        · unfold Journal.isSuccess
          rw [none]
          rfl
      dsimp only
      rw [if_pos rfl, attempts_of_ended retry _ _ (.inl nothing)]

/--
The report of a retry is exact.  Its questions are those that have reached the
planner, each counted once by what became of it; the failures left are those of
the journal it leaves, and those at the start without the fixes applied.  There
are at most as many attempts as allowed, with at most one question in each for
every failure at the start, and at least one unless an attempt is interrupted
before its first.  An active retry that found a failure and made fewer attempts
than allowed has left none, or was cancelled.  A retry that is off, or finds no
failure, does nothing.
-/
theorem run_accounts (retry : Retry σ) (journal : Journal) (counted : journal.Counted)
    (cancelled : Bool) (state : σ) :
    let done := retry.run journal cancelled state
    Accounts retry.settings journal done.journal
        ((retry.events journal cancelled state).countP Event.isQuestion) done.report ∧
      ((∀ attempt state, retry.interrupts attempt state = false) →
        done.report.attempts ≤ done.report.requested) ∧
      (retry.settings.isActive = true → 0 < journal.failed →
        done.report.attempts < retry.settings.maxRetries →
        done.journal.failed = 0 ∨ done.cancelled = true) ∧
      (retry.settings.isActive = false ∨ journal.failed = 0 →
        done.report = { remaining := journal.failed } ∧ done.journal = journal) := by
  have start : retry.Paced journal 0 { journal, cancelled, state } :=
    ⟨⟨counted, rfl, rfl⟩, rfl, Nat.zero_le _, fun _ => Nat.zero_le _⟩
  obtain ⟨started, allowed, paced, early⟩ := retry.run_rounds start
    (fun started run paced unfinished live => paced.round unfinished live)
    (fun started run paced =>
      ⟨⟨paced.counted, paced.balanced, paced.settled_eq⟩, paced.attempts_eq,
        paced.few, paced.enough⟩)
  have remaining : (retry.run journal cancelled state).report.remaining =
      (retry.run journal cancelled state).journal.failed := rfl
  have balanced := paced.balanced
  refine ⟨⟨paced.settled_eq, retry.requested_run journal cancelled state, remaining,
    ⟨?_, ?_⟩, ?_, ?_⟩, ?_, ?_, ?_⟩
  · omega
  · omega
  · rw [paced.attempts_eq]
    exact allowed
  · rw [paced.attempts_eq]
    exact paced.few
  · intro quiet
    rw [paced.attempts_eq]
    exact paced.enough quiet
  · intro active _ fewer
    rw [paced.attempts_eq] at fewer
    refine (early active fewer).imp_left fun success => ?_
    unfold Journal.isSuccess at success
    exact beq_iff_eq.mp success
  · intro idle
    rw [retry.run_of_idle cancelled state idle]
    exact ⟨rfl, rfl⟩

/-- A retry that can restart a service, and whose fix for a mount always fails. -/
def stubborn : Retry Unit where
  executor := {}
  gate := {}
  settings := { enabled := true }
  runner := fun _ request state =>
    ({ failure := if request.argv = ["remount"] then some (.exit 1) else none }, state)
  planner := fun question state =>
    let word := if question.command = "mount" then "remount" else "restart"
    ({ answer := .ok { commands := [{ argv := [word] }] } }, state)

def stubbornJournal : Journal :=
  .ofEntries
    [{ argv := ["mount"], failure := some (.exit 32) }, { argv := ["uptime"] },
      { argv := ["start"], failure := some .cancelled }]

/-- Of two failures one is cleared, and the other is asked about twice. -/
theorem stubborn_accounts :
    Accounts stubborn.settings stubbornJournal
        (stubborn.run stubbornJournal false ()).journal
        ((stubborn.events stubbornJournal false ()).countP Event.isQuestion)
        (stubborn.run stubbornJournal false ()).report ∧
      (stubborn.run stubbornJournal false ()).report =
        { attempts := 2, requested := 3, applied := 1, failed := 2, remaining := 1 } :=
  ⟨(run_accounts stubborn stubbornJournal (Journal.counted_ofEntries _) false ()).1,
    by decide +kernel⟩

end Retry

end PlanGuard
