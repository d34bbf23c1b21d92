import PlanGuard.Proofs.Retry.Chronicle

/-!
# What a retry makes of the entries

After a retry every entry is where it was.  One that did not fail is untouched.
One that still fails shows the first failure of the last fix that was run for it,
and one that has been fixed shows the output that it had before the fix that
succeeded.
-/

namespace PlanGuard

namespace Entry

theorem foldl_afterFix_frame (fixes : List Journal) (entry : Entry) :
    fixes.foldl (fun entry fix => entry.afterFix fix) entry =
      { entry with
        output := (fixes.foldl (fun entry fix => entry.afterFix fix) entry).output
        failure := (fixes.foldl (fun entry fix => entry.afterFix fix) entry).failure } := by
  induction fixes generalizing entry with
  | nil => rfl
  | cons fix rest ih =>
      rw [List.foldl_cons, ih (entry.afterFix fix), entry.afterFix_frame fix]

/-- An entry that fails after a fix shows the first failure of the fix. -/
theorem afterFix_of_failed {fix : Journal} {entry : Entry}
    (failed : (entry.afterFix fix).failed = true) :
    ∃ first, fix.firstFailure? = some first ∧
      entry.afterFix fix =
        { entry with output := first.output, failure := first.failure } := by
  unfold afterFix at *
  cases found : fix.firstFailure? with
  | none =>
      rw [found] at failed
      cases failed
  | some first => exact ⟨first, rfl, rfl⟩

end Entry

namespace Retry

variable {σ : Type}

/--
The merge law of a retry.  The entries keep their number and their order, and
each keeps all but its output and its failure.  A fix for a position is what the
run of a plan has left that was answered there.  An entry without a failure is
left as it is.  An entry that fails at the end has the output and the failure of
the first failure of the last fix that was run for its position, or its own if
none was.  An entry that has lost its failure is as it stood in the journal just
before the fix that succeeded, but for the failure.
-/
theorem run_merges (retry : Retry σ) (journal : Journal) (cancelled : Bool)
    (state : σ) :
    (retry.run journal cancelled state).journal.entries.length =
        journal.entries.length ∧
      (∀ position fix,
        fix ∈ fixesAt position (retry.run journal cancelled state).tries →
        ∃ tried ∈ (retry.run journal cancelled state).tries,
          tried.position = position ∧
          ∃ plan cancelled state,
            tried.advice.resolve retry.settings.fixTimeout = .ok plan ∧
            fix = (retry.executor.runPlan retry.runner false
              (plan.truncate retry.settings.maxCommands) cancelled state).journal ∧
            tried.fate.exchanges = (retry.executor.runPlan retry.runner false
              (plan.truncate retry.settings.maxCommands) cancelled state).exchanges) ∧
      ∀ position before, journal.entries[position]? = some before →
        ∃ after,
          (retry.run journal cancelled state).journal.entries[position]? =
            some after ∧
          after = { before with output := after.output, failure := after.failure } ∧
          (before.failure = none → after = before) ∧
          (after.failed = true →
            fixesAt position (retry.run journal cancelled state).tries = [] →
            after = before) ∧
          (∀ fixes fix, after.failed = true →
            fixesAt position (retry.run journal cancelled state).tries =
              fixes ++ [fix] →
            ∃ first, fix.firstFailure? = some first ∧
              after.output = first.output ∧ after.failure = first.failure) ∧
          (before.failed = true → after.failed = false →
            ∃ earlier tried later fix,
              (retry.run journal cancelled state).tries = earlier ++ tried :: later ∧
              tried.position = position ∧ tried.fate.fix? = some fix ∧
              fix.isSuccess = true ∧
              (journal.replay earlier).entries[position]? = some tried.entry ∧
              after = { tried.entry with failure := none }) := by
  obtain ⟨chronicle, written⟩ := retry.run_chronicle journal cancelled state
  rw [written]
  generalize (retry.run journal cancelled state).tries = tries at chronicle ⊢
  refine ⟨Journal.length_replay journal chronicle.counted, ?_, ?_⟩
  · intro position fix member
    obtain ⟨tried, among, aimed⟩ := List.mem_filterMap.mp member
    obtain ⟨here, ran⟩ := Try.fixAt?_eq_some_iff.mp aimed
    obtain ⟨earlier, later, rfl⟩ := List.append_of_mem among
    exact ⟨tried, among, here, chronicle.fits.outcome.course_of_fix ran⟩
  · intro position before found
    have final := Journal.getElem?_replay journal chronicle.counted position
    rw [found, Option.map_some] at final
    refine ⟨_, final, Entry.foldl_afterFix_frame _ before, ?_, ?_, ?_, ?_⟩
    · intro clear
      have untouched := chronicle.untouched found (Entry.failed_eq_false_iff.mpr clear)
      rw [final] at untouched
      exact Option.some.inj untouched.2
    · intro _ unfixed
      rw [chronicle.unfixed unfixed, found, Option.some.injEq] at final
      exact final.symm
    · intro fixes fix failed last
      obtain ⟨earlier, tried, later, -, -, -, -, decided⟩ := chronicle.last_fix last
      rw [final, Option.some.injEq] at decided
      rw [decided] at failed ⊢
      obtain ⟨first, shown, taken⟩ := Entry.afterFix_of_failed failed
      exact ⟨first, shown, by rw [taken], by rw [taken]⟩
    · intro failed clear
      exact chronicle.cleared found failed final clear

/-- The entry of the sample is as it was before the fix, but for the failure. -/
theorem sample_merged :
    ∃ tried ∈ (sample.run sampleJournal false ()).tries, ∃ fix,
      tried.fate.fix? = some fix ∧ fix.isSuccess = true ∧
        (sample.run sampleJournal false ()).journal.entries[0]? =
          some { tried.entry with failure := none } := by
  obtain ⟨after, final, -, -, -, -, fixed⟩ :=
    (run_merges sample sampleJournal false ()).2.2 0 _ rfl
  have clear : after.failed = false := by
    have same := final.symm.trans sample_clears
    rw [Option.some.inj same]
    rfl
  obtain ⟨earlier, tried, later, fix, tries, -, ran, success, -, merged⟩ :=
    fixed rfl clear
  refine ⟨tried, ?_, fix, ran, success, merged ▸ final⟩
  rw [tries]
  exact List.mem_append_right _ List.mem_cons_self

end Retry

end PlanGuard
