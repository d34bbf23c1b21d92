import PlanGuard.Proofs.Retry.Chronicle
import PlanGuard.Proofs.Retry.Events

/-!
# What clears a failure

An entry loses its failure to nothing but a fix that was run to its end.  A fix
is judged by the count of its failures, and the count of a run of no commands is
zero as well; that such a fix is never judged comes from the limit, which leaves
some command of every plan that has one.
-/

namespace PlanGuard

namespace Retry

variable {σ : Type}

/--
A question was answered in time with a plan that was carried out: the limit
leaves some of its commands, the gate permits these, and each of them was handed
to the runner, in order, and reported no failure.
-/
structure Clears (retry : Retry σ) (advice : Advice) (fate : Fate) (plan : Plan) :
    Prop where
  answered : advice.resolve retry.settings.fixTimeout = .ok plan
  nonempty : plan.kept retry.settings.maxCommands ≠ []
  permitted :
    retry.gate.violation? (plan.truncate retry.settings.maxCommands) = none
  handed :
    fate.exchanges.map (·.request) =
      (plan.kept retry.settings.maxCommands).map retry.executor.requestFor
  fine : ∀ exchange ∈ fate.exchanges, exchange.reply.failure = none

theorem not_clears {retry : Retry σ} {advice : Advice} {fate : Fate} {plan : Plan}
    (short : plan.kept retry.settings.maxCommands = [] ∨
      retry.gate.violation? (plan.truncate retry.settings.maxCommands) ≠ none ∨
      fate.exchanges.length < (plan.kept retry.settings.maxCommands).length) :
    ¬ retry.Clears advice fate plan := by
  intro clears
  rcases short with nothing | objected | interrupted
  · exact clears.nonempty nothing
  · exact objected clears.permitted
  · have full := congrArg List.length clears.handed
    rw [List.length_map, List.length_map] at full
    omega

theorem not_clears_of_idle {retry : Retry σ} {advice : Advice} {fate : Fate}
    (idle : fate.exchanges = []) : ¬ ∃ plan, retry.Clears advice fate plan := by
  rintro ⟨plan, clears⟩
  have handed := clears.handed
  rw [idle, List.map_nil] at handed
  exact clears.nonempty (List.map_eq_nil_iff.mp handed.symm)

/-- A fix is a success exactly when its plan was carried out. -/
theorem Outcome.clears_iff {retry : Retry σ} {advice : Advice} {fate : Fate}
    (outcome : retry.Outcome advice fate) :
    (∃ fix, fate.fix? = some fix ∧ fix.isSuccess = true) ↔
      ∃ plan, retry.Clears advice fate plan := by
  cases outcome with
  | unavailable =>
      refine iff_of_false ?_ (not_clears_of_idle rfl)
      rintro ⟨fix, ran, -⟩
      cases ran
  | rejected =>
      refine iff_of_false ?_ (not_clears_of_idle rfl)
      rintro ⟨fix, ran, -⟩
      cases ran
  | @ran plan answered nonempty permitted cancelled state =>
      have succeeds := retry.executor.isSuccess_runPlan_iff retry.runner false
        (plan.truncate retry.settings.maxCommands) cancelled state
      rw [Plan.commands_truncate] at succeeds
      constructor
      · rintro ⟨fix, ran, success⟩
        rw [← Option.some.inj ran] at success
        obtain ⟨handed, fine⟩ := succeeds.mp success
        -- The count would be zero for no commands, too; but some are left.
        have kept : plan.kept retry.settings.maxCommands ≠ [] := fun nothing =>
          nonempty (Plan.kept_eq_nil_iff.mp nothing)
        exact ⟨plan, answered, kept, permitted, handed, fine⟩
      · rintro ⟨other, clears⟩
        have same : plan = other := Except.ok.inj (answered.symm.trans clears.answered)
        exact ⟨_, rfl, succeeds.mpr ⟨same ▸ clears.handed, clears.fine⟩⟩

theorem still_fails {retry : Retry σ} {journal : Journal} {tried : Try}
    (fits : tried.Fits retry journal)
    (idle : ¬ ∃ plan, retry.Clears tried.advice tried.fate plan) {position : Nat}
    {entry : Entry} (found : journal.entries[position]? = some entry)
    (failed : entry.failed = true) :
    ∃ after, (journal.absorb tried).entries[position]? = some after ∧
      after.failed = true := by
  rw [Journal.getElem?_absorb _ fits.counted]
  cases aimed : tried.fixAt? position with
  | none => exact ⟨entry, found, failed⟩
  | some fix =>
      obtain ⟨-, ran⟩ := Try.fixAt?_eq_some_iff.mp aimed
      have unsuccessful : fix.isSuccess = false := by
        cases success : fix.isSuccess with
        | false => rfl
        | true => exact absurd (fits.outcome.clears_iff.mp ⟨fix, ran, success⟩) idle
      refine ⟨entry.afterFix fix, ?_, ?_⟩
      · rw [found]
        rfl
      · rw [Entry.failed_afterFix (fits.counted fix ran), unsuccessful]
        rfl

namespace Chronicle

variable {retry : Retry σ} {journal : Journal}

/--
The entry that a question is about failed from the start, and what the question
makes of it stays if that is no failure.
-/
theorem clears_for_good {earlier : List Try} {tried : Try} {later : List Try}
    (chronicle : retry.Chronicle journal (earlier ++ tried :: later))
    (carriedOut : ∃ plan, retry.Clears tried.advice tried.fate plan) :
    ∃ before after, journal.entries[tried.position]? = some before ∧
      before.failed = true ∧
      (journal.replay (earlier ++ tried :: later)).entries[tried.position]? =
        some after ∧
      after.failed = false := by
  have fits := chronicle.fits
  have counted : ∀ other ∈ earlier, other.Counted := fun other member =>
    chronicle.counted other (List.mem_append_left _ member)
  have stood := fits.found
  rw [Journal.getElem?_replay journal counted] at stood
  obtain ⟨before, found, -⟩ := Option.map_eq_some_iff.mp stood
  have failed : before.failed = true := by
    cases clear : before.failed with
    | true => rfl
    | false =>
        have elsewhere := (chronicle.untouched found clear).1
        exact absurd rfl (elsewhere tried (List.mem_append_right _ List.mem_cons_self))
  obtain ⟨fix, ran, success⟩ := fits.outcome.clears_iff.mpr carriedOut
  have fixed : (tried.entry.afterFix fix).failed = false := by
    rw [Entry.failed_afterFix (fits.counted fix ran), success]
    rfl
  have cleared : (journal.replay (earlier ++ [tried])).entries[tried.position]? =
      some (tried.entry.afterFix fix) := by
    rw [Journal.replay_snoc, Journal.getElem?_absorb _ fits.counted]
    unfold Try.fixAt?
    rw [if_pos rfl, ran, fits.found]
    rfl
  rw [← List.singleton_append, ← List.append_assoc] at chronicle ⊢
  exact ⟨before, _, found, failed, (chronicle.settled cleared fixed).2, fixed⟩

end Chronicle

/--
A failure is cleared exactly by a question about it whose plan was carried out.
A question leaves every failure in place whose answer did not come in time, or
was a plan of which the limit leaves nothing, which the gate rejects, or which
was interrupted before its last command.  What the tries tell is what the planner
and the runner have seen.
-/
theorem run_clears_iff (retry : Retry σ) (journal : Journal) (cancelled : Bool)
    (state : σ) :
    (∀ position,
      (∃ before after, journal.entries[position]? = some before ∧
        before.failed = true ∧
        (retry.run journal cancelled state).journal.entries[position]? = some after ∧
        after.failed = false) ↔
      ∃ tried ∈ (retry.run journal cancelled state).tries,
        tried.position = position ∧
          ∃ plan, retry.Clears tried.advice tried.fate plan) ∧
    (∀ earlier tried later,
      (retry.run journal cancelled state).tries = earlier ++ tried :: later →
      (∀ plan, tried.advice.resolve retry.settings.fixTimeout = .ok plan →
        plan.kept retry.settings.maxCommands = [] ∨
          retry.gate.violation? (plan.truncate retry.settings.maxCommands) ≠ none ∨
          tried.fate.exchanges.length <
            (plan.kept retry.settings.maxCommands).length) →
      ∀ (position : Nat) (entry : Entry),
        (journal.replay earlier).entries[position]? = some entry →
        entry.failed = true →
        ∃ after : Entry,
          (journal.replay (earlier ++ [tried])).entries[position]? = some after ∧
            after.failed = true) ∧
    retry.events journal cancelled state =
      (retry.run journal cancelled state).tries.flatMap Try.events := by
  obtain ⟨chronicle, written⟩ := retry.run_chronicle journal cancelled state
  refine ⟨?_, ?_, retry.events_eq journal cancelled state⟩
  · intro position
    rw [written]
    generalize (retry.run journal cancelled state).tries = tries at chronicle ⊢
    constructor
    · rintro ⟨before, after, found, failed, final, clear⟩
      obtain ⟨earlier, tried, later, fix, rfl, here, ran, success, -, -⟩ :=
        chronicle.cleared found failed final clear
      have outcome := chronicle.fits.outcome
      exact ⟨tried, List.mem_append_right _ List.mem_cons_self, here,
        outcome.clears_iff.mp ⟨fix, ran, success⟩⟩
    · rintro ⟨tried, member, rfl, carriedOut⟩
      obtain ⟨earlier, later, rfl⟩ := List.append_of_mem member
      exact chronicle.clears_for_good carriedOut
  · intro earlier tried later split short position entry found failed
    rw [split] at chronicle
    have idle : ¬ ∃ plan, retry.Clears tried.advice tried.fate plan := by
      rintro ⟨plan, clears⟩
      exact not_clears (short plan clears.answered) clears
    rw [Journal.replay_snoc]
    exact still_fails chronicle.fits idle found failed

/-- The failure of the sample is cleared, so there is a question that did it. -/
theorem sample_carried_out :
    ∃ tried ∈ (sample.run sampleJournal false ()).tries,
      tried.position = 0 ∧ ∃ plan, sample.Clears tried.advice tried.fate plan :=
  ((run_clears_iff sample sampleJournal false ()).1 0).mp
    ⟨_, _, rfl, rfl, sample_clears, rfl⟩

end Retry

end PlanGuard
