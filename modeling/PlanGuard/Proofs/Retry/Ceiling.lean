import PlanGuard.Proofs.Retry.Audit
import PlanGuard.Proofs.Retry.Questions
import Mathlib.Data.List.Infix

/-!
# More attempts allowed

Nothing within an attempt depends on how many attempts are allowed.  With a higher
ceiling a retry makes the attempts that it makes with a lower one, and perhaps more
after them.  `Continues` is what one question, an attempt, and any number of further
attempts do to a run: they add tries and audit entries at the end, leave alone what
has no failure, and make no more entries fail.
-/

namespace PlanGuard

namespace Journal

theorem failed_mergeFix_le {journal : Journal} {position : Nat} {entry : Entry}
    (found : journal.entries[position]? = some entry) (failed : entry.failed = true)
    (fix : Journal) : (journal.mergeFix position fix).failed ≤ journal.failed := by
  have marked : (journal.markFixed position).failed ≤ journal.failed := by
    unfold markFixed
    rw [found]
    dsimp only
    rw [if_pos failed]
    exact Nat.sub_le _ _
  have recorded (output : String) (failure : Failure) :
      (journal.recordFixFailure position output failure).failed = journal.failed := by
    unfold recordFixFailure
    rw [found]
    have stays : entry.succeeded = false := by
      obtain ⟨own, carried⟩ := Entry.failed_iff.mp failed
      unfold Entry.succeeded
      rw [carried]
      rfl
    dsimp only
    rw [stays]
    rfl
  obtain ⟨merged, same, rfl | rfl | ⟨output, failure, rfl⟩⟩ :=
    journal.mergeFix_cases position fix
  · exact same ▸ Nat.le_refl _
  · exact same ▸ marked
  · exact same ▸ Nat.le_of_eq (recorded output failure)

theorem failed_absorb_le {journal : Journal} {tried : Try} {entry : Entry}
    (found : journal.entries[tried.position]? = some entry)
    (failed : entry.failed = true) : (journal.absorb tried).failed ≤ journal.failed := by
  unfold absorb
  split
  · exact failed_mergeFix_le found failed _
  · exact Nat.le_refl _

end Journal

/-- A report with no count above those of another, but for the failures that remain. -/
structure RetryReport.Within (fewer more : RetryReport) : Prop where
  attempts : fewer.attempts ≤ more.attempts
  requested : fewer.requested ≤ more.requested
  applied : fewer.applied ≤ more.applied
  failed : fewer.failed ≤ more.failed
  rejected : fewer.rejected ≤ more.rejected
  unavailable : fewer.unavailable ≤ more.unavailable
  remaining : more.remaining ≤ fewer.remaining

namespace Retry

variable {σ : Type}

/-! ## Runs that continue others -/

structure Continues (earlier later : RetryRun σ) : Prop where
  tries : earlier.tries <+: later.tries
  audit : earlier.journal.audit <+: later.journal.audit
  /-- An entry without a failure stays as it is. -/
  settled : ∀ (position : Nat) (entry : Entry),
    earlier.journal.entries[position]? = some entry → entry.failure = none →
      later.journal.entries[position]? = some entry
  attempts : earlier.report.attempts ≤ later.report.attempts
  failed : later.journal.failed ≤ earlier.journal.failed

namespace Continues

theorem refl (run : RetryRun σ) : Continues run run :=
  ⟨List.prefix_refl _, List.prefix_refl _, fun _ _ found _ => found, Nat.le_refl _,
    Nat.le_refl _⟩

theorem trans {first second third : RetryRun σ} (begun : Continues first second)
    (continued : Continues second third) : Continues first third where
  tries := begun.tries.trans continued.tries
  audit := begun.audit.trans continued.audit
  settled := fun position entry found clear =>
    continued.settled position entry (begun.settled position entry found clear) clear
  attempts := Nat.le_trans begun.attempts continued.attempts
  failed := Nat.le_trans continued.failed begun.failed

theorem fixOne (retry : Retry σ) (attempt : Nat) {position : Nat} {run : RetryRun σ}
    {entry : Entry} (found : run.journal.entries[position]? = some entry)
    (failed : entry.failed = true) :
    Continues run (retry.fixOne attempt position run) := by
  obtain ⟨tried, rfl, -, -, -, -, tries, absorbed⟩ := retry.fixOne_of_found attempt found
  refine ⟨?_, ?_, ?_, ?_, ?_⟩
  · rw [tries]
    exact List.prefix_append _ _
  · rw [absorbed, Journal.audit_absorb]
    exact List.prefix_append _ _
  · intro other settled stands clear
    rw [retry.getElem?_fixOne_of_ne attempt run]
    · exact stands
    · rintro rfl
      rw [found, Option.some.injEq] at stands
      rw [stands, Entry.failed_eq_false_iff.mpr clear] at failed
      cases failed
  · exact Nat.le_of_eq (retry.attempts_fixOne attempt tried.position run).symm
  · rw [absorbed]
    exact Journal.failed_absorb_le found failed

theorem round (retry : Retry σ) {attempt : Nat} {run : RetryRun σ}
    (due : run.report.attempts ≤ attempt) : Continues run (retry.round attempt run) := by
  refine fixEach_induction retry attempt ?_ run.journal.failing
    (retry.startAttempt attempt run) (Journal.nodup_failing _) (fun _ member => member) ?_
  · intro position entry later continues _ found failed
    exact continues.trans (.fixOne retry attempt found failed)
  · exact ⟨List.prefix_refl _, List.prefix_refl _, fun _ _ found _ => found, due,
      Nat.le_refl _⟩

end Continues

section Reached

variable (retry : Retry σ) (journal : Journal) (cancelled : Bool) (state : σ)

/-- Further attempts continue what fewer have reached. -/
theorem continues_reached {few many : Nat} (more : few ≤ many) :
    Continues (retry.reached journal cancelled state few)
      (retry.reached journal cancelled state many) := by
  induction more with
  | refl => exact .refl _
  | @step made more ih =>
      refine ih.trans ?_
      have due := retry.attempts_reached_le journal cancelled state made
      unfold reached at *
      rw [attempts_snoc]
      dsimp only
      split
      next => exact .refl _
      next => exact .round retry (Nat.le_add_left_of_le due)

end Reached

/-! ## The ceiling -/

def withCeiling (retry : Retry σ) (ceiling : Nat) : Retry σ :=
  { retry with settings := { retry.settings with maxRetries := ceiling } }

theorem fixOne_withCeiling (retry : Retry σ) (ceiling attempt position : Nat)
    (run : RetryRun σ) :
    (retry.withCeiling ceiling).fixOne attempt position run =
      retry.fixOne attempt position run :=
  rfl

theorem fixEach_withCeiling (retry : Retry σ) (ceiling attempt : Nat)
    (positions : List Nat) (run : RetryRun σ) :
    (retry.withCeiling ceiling).fixEach attempt positions run =
      retry.fixEach attempt positions run := by
  induction positions generalizing run with
  | nil => rfl
  | cons position rest ih =>
      unfold fixEach
      rw [fixOne_withCeiling, ih]

theorem attempts_withCeiling (retry : Retry σ) (ceiling left attempt : Nat)
    (run : RetryRun σ) :
    (retry.withCeiling ceiling).attempts left attempt run =
      retry.attempts left attempt run := by
  induction left generalizing attempt run with
  | zero => rfl
  | succ left ih =>
      unfold attempts
      rw [fixEach_withCeiling, ih]
      rfl

theorem allowed_withCeiling (retry : Retry σ) (ceiling : Nat) :
    (retry.withCeiling ceiling).allowed =
      if retry.settings.enabled then ceiling else 0 := by
  unfold allowed withCeiling RetrySettings.isActive
  cases retry.settings.enabled with
  | false => rfl
  | true => cases ceiling <;> rfl

/-- With a ceiling a run leaves what so many of its attempts have reached. -/
theorem run_withCeiling (retry : Retry σ) (ceiling : Nat) (journal : Journal)
    (cancelled : Bool) (state : σ) :
    (retry.withCeiling ceiling).run journal cancelled state =
      let last := retry.reached journal cancelled state
        (if retry.settings.enabled then ceiling else 0)
      { last with report := { last.report with remaining := last.journal.failed } } := by
  rw [run_eq_reached, allowed_withCeiling]
  unfold reached
  rw [attempts_withCeiling]

/-- With a higher ceiling a run continues that with a lower one. -/
theorem continues_run (retry : Retry σ) {few many : Nat} (more : few ≤ many)
    (journal : Journal) (cancelled : Bool) (state : σ) :
    Continues ((retry.withCeiling few).run journal cancelled state)
      ((retry.withCeiling many).run journal cancelled state) := by
  have allowed : (if retry.settings.enabled then few else 0) ≤
      if retry.settings.enabled then many else 0 := by
    split
    · exact more
    · exact Nat.le_refl 0
  have continues := retry.continues_reached journal cancelled state allowed
  rw [run_withCeiling, run_withCeiling]
  exact ⟨continues.tries, continues.audit, continues.settled, continues.attempts,
    continues.failed⟩

/-! ## What has been done is not undone -/

/-- A run that continues another reports no less work, and no more failures left. -/
theorem Continues.within {earlier later : RetryRun σ} (continues : Continues earlier later)
    (before : earlier.report = { RetryReport.ofTries earlier.tries with
      attempts := earlier.report.attempts, remaining := earlier.journal.failed })
    (after : later.report = { RetryReport.ofTries later.tries with
      attempts := later.report.attempts, remaining := later.journal.failed }) :
    earlier.report.Within later.report := by
  have counts (kind : Try → Bool) : earlier.tries.countP kind ≤ later.tries.countP kind :=
    continues.tries.sublist.countP_le
  rw [before, after]
  exact ⟨continues.attempts, continues.tries.length_le, counts _, counts _, counts _,
    counts _, continues.failed⟩

/--
A higher ceiling only continues a retry, whatever the planner and the runner do and
whoever cancels.  What reaches the planner and the runner with the lower ceiling comes
first with the higher one, in the same order and with the same answers, and so do the
audit entries.  An entry that has lost its failure, or had none, is the same after
both.  The report of the longer run counts no less, and no more failures remain.
-/
theorem run_continues (retry : Retry σ) {few many : Nat} (more : few ≤ many)
    (journal : Journal) (cancelled : Bool) (state : σ) :
    let shorter := (retry.withCeiling few).run journal cancelled state
    let longer := (retry.withCeiling many).run journal cancelled state
    let noted (ceiling : Nat) := (retry.withCeiling ceiling).events journal cancelled state
    noted few <+: noted many ∧
      (noted few).filterMap Event.question? <+: (noted many).filterMap Event.question? ∧
      Retry.requests shorter <+: Retry.requests longer ∧
      shorter.journal.audit <+: longer.journal.audit ∧
      (∀ (position : Nat) (entry : Entry),
        shorter.journal.entries[position]? = some entry → entry.failure = none →
          longer.journal.entries[position]? = some entry) ∧
      shorter.report.Within longer.report := by
  dsimp only
  have continues := retry.continues_run more journal cancelled state
  have events : (retry.withCeiling few).events journal cancelled state <+:
      (retry.withCeiling many).events journal cancelled state := by
    rw [events_eq, events_eq]
    exact continues.tries.flatMap _
  exact ⟨events, events.filterMap _, continues.tries.flatMap _, continues.audit,
    continues.settled, continues.within (report_run _ _ _ _) (report_run _ _ _ _)⟩

/-- The second attempt of the stubborn retry continues the first. -/
theorem stubborn_continues :
    ((stubborn.withCeiling 1).run stubbornJournal false ()).journal.audit <+:
        ((stubborn.withCeiling 2).run stubbornJournal false ()).journal.audit ∧
      ((stubborn.withCeiling 1).run stubbornJournal false ()).report =
        { attempts := 1, requested := 2, applied := 1, failed := 1, remaining := 1 } ∧
      ((stubborn.withCeiling 2).run stubbornJournal false ()).report =
        { attempts := 2, requested := 3, applied := 1, failed := 2, remaining := 1 } := by
  obtain ⟨-, -, -, audit, -⟩ :=
    run_continues stubborn (show 1 ≤ 2 by decide) stubbornJournal false ()
  exact ⟨audit, by decide +kernel, by decide +kernel⟩

end Retry

end PlanGuard
