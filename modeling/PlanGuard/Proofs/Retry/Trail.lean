import PlanGuard.Proofs.Executor.Trace
import PlanGuard.Proofs.Retry.Accounting
import PlanGuard.Proofs.Retry.Audit

/-!
# The blocks of the audit trail

A fix that was run leaves one block in the audit trail: an entry for each command of
its plan as it was cut, marked with the position that the fix was meant for.  The trail
that a retry leaves is the one that it has found with these blocks behind it, in the
order of the questions, and there are as many of them as the report counts fixes.
-/

namespace PlanGuard

namespace Try

def ran (tried : Try) : Bool :=
  tried.fate.fix?.isSome

theorem audit_of_idle {tried : Try} (idle : tried.ran = false) : tried.audit = [] := by
  unfold ran at idle
  unfold audit
  rw [Option.not_isSome_iff_eq_none.mp (Bool.eq_false_iff.mp idle)]

theorem flatMap_audit (tries : List Try) :
    tries.flatMap audit = (tries.filter ran).flatMap audit := by
  induction tries with
  | nil => rfl
  | cons tried rest ih =>
      cases whether : tried.ran with
      | true =>
          rw [List.filter_cons_of_pos whether, List.flatMap_cons, List.flatMap_cons, ih]
      | false =>
          rw [List.filter_cons_of_neg (by simp [whether]), List.flatMap_cons,
            audit_of_idle whether, List.nil_append, ih]

/-- A fix that was run is counted once, as applied or as failed. -/
theorem counted_ran (tried : Try) :
    (if tried.ran then 1 else 0) =
      (if tried.fate.applied then 1 else 0) + if tried.fate.botched then 1 else 0 := by
  unfold ran Fate.applied Fate.botched
  cases tried.fate.fix? with
  | none => rfl
  | some fix => cases success : fix.isSuccess <;> simp [success]

theorem applied_and_ran (tried : Try) :
    (tried.fate.applied && tried.ran) = tried.fate.applied := by
  unfold Fate.applied ran
  cases tried.fate.fix? with
  | none => rfl
  | some fix => exact Bool.and_true _

theorem length_filter_ran (tries : List Try) :
    (tries.filter ran).length =
      (RetryReport.ofTries tries).applied + (RetryReport.ofTries tries).failed := by
  unfold RetryReport.ofTries
  dsimp only
  rw [← List.countP_eq_length_filter]
  induction tries with
  | nil => rfl
  | cons tried rest ih =>
      rw [List.countP_cons, List.countP_cons, List.countP_cons, ih, counted_ran]
      omega

/-! ## One block -/

/--
The block of a try that has run a fix, as it was made with a journal.  The plan that
came in time was let through as it was cut, and the block has an entry for each of its
commands, numbered from zero, with what the runner has answered.
-/
structure Trailed {σ : Type} (retry : Retry σ) (journal : Journal) (tried : Try) :
    Prop where
  about : journal.entries[tried.position]? = some tried.entry
  block : ∃ plan cancelled answers entries,
    tried.advice.resolve retry.settings.fixTimeout = .ok plan ∧
      retry.gate.violation? (plan.truncate retry.settings.maxCommands) = none ∧
      retry.executor.Traced 0 (plan.kept retry.settings.maxCommands) cancelled answers
        tried.fate.exchanges entries ∧
      tried.audit = entries.map (Entry.asFixFor tried.position) ∧
      tried.audit.map (·.index) =
        List.range (plan.kept retry.settings.maxCommands).length
  marked : ∀ entry ∈ tried.audit, entry.fixFor = some tried.position
  /-- The block of a fix that was applied tells of successes only. -/
  applied : tried.fate.applied = true → ∀ entry ∈ tried.audit, entry.failure = none
  /-- The first failure in the block of one that failed is what the entry then shows. -/
  failed : tried.fate.applied = false → ∃ first failure,
    tried.audit.find? Entry.failed = some first ∧ first.failure = some failure ∧
      (journal.absorb tried).entries[tried.position]? =
        some { tried.entry with output := first.output, failure := some failure }

end Try

namespace Retry

variable {σ : Type} {retry : Retry σ}

/-- A fix is the run of a plan that came in time and was let through as it was cut. -/
theorem Outcome.traced {advice : Advice} {fate : Fate} {fix : Journal}
    (outcome : retry.Outcome advice fate) (ran : fate.fix? = some fix) :
    ∃ plan cancelled answers,
      advice.resolve retry.settings.fixTimeout = .ok plan ∧
        retry.gate.violation? (plan.truncate retry.settings.maxCommands) = none ∧
        retry.executor.Traced 0 (plan.kept retry.settings.maxCommands) cancelled answers
          fate.exchanges fix.entries := by
  cases outcome with
  | unavailable => cases ran
  | rejected => cases ran
  | @ran plan answered nonempty permitted cancelled state =>
      obtain ⟨-, answers, traced⟩ := retry.executor.runFrom_traced retry.runner false 0
        (plan.truncate retry.settings.maxCommands).commands cancelled state
      rw [Plan.commands_truncate] at traced
      refine ⟨plan, cancelled, answers, answered, permitted, ?_⟩
      rw [← Option.some.inj ran]
      unfold Course.journal
      rw [Journal.entries_ofEntries]
      unfold Executor.runPlan Fate.exchanges
      rw [Plan.commands_truncate]
      exact traced

end Retry

theorem Try.Fits.trailed {σ : Type} {retry : Retry σ} {journal : Journal} {tried : Try}
    (fits : tried.Fits retry journal) (ran : tried.ran = true) :
    tried.Trailed retry journal := by
  obtain ⟨fix, left⟩ := Option.isSome_iff_exists.mp ran
  have counted := fits.counted fix left
  have block : tried.audit = fix.entries.map (Entry.asFixFor tried.position) := by
    unfold Try.audit
    rw [left]
    dsimp only
    rw [fits.outcome.bare fix left, List.append_nil]
  have verdict : tried.fate.applied = fix.isSuccess := by
    unfold Fate.applied
    rw [left]
  refine ⟨fits.found, ?_, Bare.fixFor fits.outcome.bare, ?_, ?_⟩
  · obtain ⟨plan, cancelled, answers, answered, permitted, traced⟩ :=
      fits.outcome.traced left
    refine ⟨plan, cancelled, answers, fix.entries, answered, permitted, traced, block, ?_⟩
    rw [block, List.map_map, List.range_eq_range', ← traced.map_index]
    rfl
  · intro applied entry member
    rw [verdict] at applied
    rw [block] at member
    obtain ⟨own, among, rfl⟩ := List.mem_map.mp member
    exact counted.isSuccess_iff.mp applied own among
  · intro failed
    rw [verdict] at failed
    cases found : fix.firstFailure? with
    | none =>
        rw [counted.isSuccess_iff_firstFailure?.mpr found] at failed
        cases failed
    | some first =>
        obtain ⟨failure, carried⟩ := Entry.failed_iff.mp (List.find?_some found)
        refine ⟨first.asFixFor tried.position, failure, ?_, carried, ?_⟩
        · unfold Journal.firstFailure? at found
          have same : Entry.failed ∘ Entry.asFixFor tried.position = Entry.failed := rfl
          rw [block, List.find?_map, same, found]
          rfl
        · rw [Journal.getElem?_absorb _ fits.counted, fits.found,
            Try.fixAt?_eq_some_iff.mpr ⟨rfl, left⟩]
          dsimp only [Option.map_some]
          unfold Entry.afterFix
          rw [found, ← carried]
          rfl

namespace Retry

variable {σ : Type}

/--
What a retry adds to the audit trail.  The trail that it has found stays in front; one
block follows for each question whose plan was run, in the order of the questions that
have reached the planner, and none for any other question.  There are as many blocks
as the report counts fixes, and as many of these tell of successes only as it counts
fixes applied.
-/
theorem run_trail (retry : Retry σ) (journal : Journal) (cancelled : Bool) (state : σ) :
    let done := retry.run journal cancelled state
    let blocks := done.tries.filter Try.ran
    done.journal.audit = journal.audit ++ blocks.flatMap Try.audit ∧
      retry.events journal cancelled state = done.tries.flatMap Try.events ∧
      blocks.length = done.report.applied + done.report.failed ∧
      blocks.countP (fun tried => tried.fate.applied) = done.report.applied ∧
      ∀ earlier tried later, done.tries = earlier ++ tried :: later → tried.ran = true →
        tried.position < done.journal.entries.length ∧
          tried.Trailed retry (journal.replay earlier) := by
  dsimp only
  obtain ⟨chronicle, written⟩ := retry.run_chronicle journal cancelled state
  have report := retry.report_run journal cancelled state
  refine ⟨?_, retry.events_eq journal cancelled state, ?_, ?_, ?_⟩
  · rw [← Try.flatMap_audit, ← Journal.audit_replay, ← written]
  · rw [report, Try.length_filter_ran]
  · rw [report, List.countP_filter]
    unfold RetryReport.ofTries
    simp only [Try.applied_and_ran]
  · intro earlier tried later split ran
    rw [written, Journal.length_replay journal chronicle.counted]
    rw [split] at chronicle
    exact ⟨chronicle.position_lt tried (List.mem_append_right earlier List.mem_cons_self),
      chronicle.fits.trailed ran⟩

/-- Of the three blocks of the stubborn retry the first is about the first failure. -/
theorem stubborn_trail :
    (stubborn.run stubbornJournal false ()).journal.audit =
        [{ argv := ["remount"], failure := some (.exit 1), fixFor := some 0 },
          { argv := ["restart"], fixFor := some 2 },
          { argv := ["remount"], failure := some (.exit 1), fixFor := some 0 }] ∧
      ∃ tried later, (stubborn.run stubbornJournal false ()).tries = tried :: later ∧
        tried.Trailed stubborn stubbornJournal := by
  obtain ⟨audit, -, -, -, trailed⟩ := run_trail stubborn stubbornJournal false ()
  have first : ((stubborn.run stubbornJournal false ()).tries.map Try.ran).head? =
      some true := by
    decide +kernel
  refine ⟨audit.trans (by decide +kernel), ?_⟩
  cases split : (stubborn.run stubbornJournal false ()).tries with
  | nil =>
      rw [split] at first
      cases first
  | cons tried later =>
      rw [split] at first
      exact ⟨tried, later, rfl, (trailed [] tried later split (Option.some.inj first)).2⟩

end Retry

end PlanGuard
