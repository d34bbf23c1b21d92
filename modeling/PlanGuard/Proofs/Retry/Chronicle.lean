import PlanGuard.Proofs.Executor.Course
import PlanGuard.Proofs.Plan.Truncation
import PlanGuard.Proofs.Retry.Merge
import Mathlib.Data.List.Induction

/-!
# What the tries of a retry tell

Every try is about an entry that fails as the tries before it have left it, asks
about that entry, and ends as the planner's advice and the gate decide.  A
`Chronicle` is a series of such tries.  `run_rounds` is the one induction over the
attempts of a retry, and `run_induction` its form for what every question
preserves; from it, the tries of a run are a chronicle, and the journal after the
run is the one before it with the tries written in.
-/

namespace PlanGuard

namespace Retry

variable {σ : Type}

/-! ## One try -/

inductive Outcome (retry : Retry σ) (advice : Advice) : Fate → Prop where
  | unavailable
      (unusable : ∀ plan, advice.resolve retry.settings.fixTimeout = .ok plan →
        plan.commands = []) :
      Outcome retry advice .unavailable
  | rejected {plan : Plan} {violation : Violation}
      (answered : advice.resolve retry.settings.fixTimeout = .ok plan)
      (nonempty : plan.commands ≠ [])
      (objected : retry.gate.violation? (plan.truncate retry.settings.maxCommands) =
        some violation) :
      Outcome retry advice (.rejected violation)
  | ran {plan : Plan}
      (answered : advice.resolve retry.settings.fixTimeout = .ok plan)
      (nonempty : plan.commands ≠ [])
      (permitted : retry.gate.violation? (plan.truncate retry.settings.maxCommands) =
        none)
      (cancelled : Bool) (state : σ) :
      Outcome retry advice
        (.ran (plan.truncate retry.settings.maxCommands)
          (retry.executor.runPlan retry.runner false
            (plan.truncate retry.settings.maxCommands) cancelled state).journal
          (retry.executor.runPlan retry.runner false
            (plan.truncate retry.settings.maxCommands) cancelled state).exchanges)

theorem outcome_pursue (retry : Retry σ) (advice : Advice) (cancelled : Bool)
    (state : σ) : retry.Outcome advice (retry.pursue advice cancelled state).1 := by
  unfold pursue
  cases answered : advice.resolve retry.settings.fixTimeout with
  | error failure =>
      apply Outcome.unavailable
      intro plan impossible
      rw [answered] at impossible
      cases impossible
  | ok plan =>
      dsimp only
      cases empty : plan.isEmpty with
      | true =>
          rw [if_pos rfl]
          apply Outcome.unavailable
          intro other same
          rw [answered, Except.ok.injEq] at same
          exact same ▸ List.isEmpty_iff.mp empty
      | false =>
          rw [if_neg Bool.false_ne_true]
          have nonempty : plan.commands ≠ [] := List.isEmpty_eq_false_iff.mp empty
          cases objected :
              retry.gate.violation? (plan.truncate retry.settings.maxCommands) with
          | some violation => exact .rejected answered nonempty objected
          | none => exact .ran answered nonempty objected cancelled state

theorem pursue_keeps (retry : Retry σ) {P : σ → Prop}
    (keeps : ∀ watched request state,
      P state → P (retry.runner watched request state).2)
    (advice : Advice) (cancelled : Bool) {state : σ} (holds : P state) :
    P (retry.pursue advice cancelled state).2.2 := by
  unfold pursue
  split
  · exact holds
  · split
    · exact holds
    · dsimp only
      split
      · exact holds
      · exact retry.executor.runFrom_keeps retry.runner false keeps 0 _ cancelled holds

/-- A fix is what the run of an answered plan has left, cut to the limit. -/
theorem Outcome.course_of_fix {retry : Retry σ} {advice : Advice} {fate : Fate}
    {fix : Journal} (outcome : retry.Outcome advice fate)
    (ran : fate.fix? = some fix) :
    ∃ plan cancelled state,
      advice.resolve retry.settings.fixTimeout = .ok plan ∧
        fix = (retry.executor.runPlan retry.runner false
          (plan.truncate retry.settings.maxCommands) cancelled state).journal ∧
        fate.exchanges = (retry.executor.runPlan retry.runner false
          (plan.truncate retry.settings.maxCommands) cancelled state).exchanges := by
  cases outcome with
  | unavailable => cases ran
  | rejected => cases ran
  | @ran plan answered nonempty permitted cancelled state =>
      exact ⟨plan, cancelled, state, answered, (Option.some.inj ran).symm, rfl⟩

theorem Outcome.counted {retry : Retry σ} {advice : Advice} {fate : Fate}
    (outcome : retry.Outcome advice fate) :
    ∀ fix, fate.fix? = some fix → fix.Counted := by
  intro fix ran
  obtain ⟨plan, cancelled, state, -, rfl, -⟩ := outcome.course_of_fix ran
  exact Journal.counted_ofEntries _

end Retry

/-- What a try is like that is made with a journal. -/
structure Try.Fits {σ : Type} (retry : Retry σ) (journal : Journal) (tried : Try) :
    Prop where
  /-- The try is about the entry at its position. -/
  found : journal.entries[tried.position]? = some tried.entry
  failed : tried.entry.failed = true
  asked : ∃ attempt, tried.question = tried.entry.question attempt
  outcome : retry.Outcome tried.advice tried.fate

theorem Try.Fits.counted {σ : Type} {retry : Retry σ} {journal : Journal}
    {tried : Try} (fits : tried.Fits retry journal) : tried.Counted :=
  fits.outcome.counted

namespace Retry

variable {σ : Type}

theorem fixOne_eq (retry : Retry σ) (attempt : Nat) {position : Nat}
    {run : RetryRun σ} {entry : Entry}
    (found : run.journal.entries[position]? = some entry) :
    ∃ (tried : Try) (asked : σ),
      tried.position = position ∧ tried.entry = entry ∧
        tried.question = entry.question attempt ∧
        retry.planner tried.question run.state = (tried.advice, asked) ∧
        let pursued := retry.pursue tried.advice
          (run.cancelled || tried.advice.cancels) asked
        tried.fate = pursued.1 ∧
        retry.fixOne attempt position run =
          { journal := run.journal.absorb tried
            report := run.report.count tried.fate
            tries := run.tries ++ [tried]
            cancelled := pursued.2.1
            state := pursued.2.2 } := by
  unfold fixOne
  rw [found]
  exact ⟨_, _, rfl, rfl, rfl, rfl, rfl, rfl⟩

/-- All that a question makes of a run once the planner has answered. -/
theorem fixOne_of_advised (retry : Retry σ) {attempt position : Nat} {run : RetryRun σ}
    {entry : Entry} {advice : Advice} {asked : σ}
    (found : run.journal.entries[position]? = some entry)
    (advised : retry.planner (entry.question attempt) run.state = (advice, asked)) :
    retry.fixOne attempt position run =
      let pursued := retry.pursue advice (run.cancelled || advice.cancels) asked
      let tried : Try :=
        { position, entry, advice
          question := entry.question attempt
          fate := pursued.1 }
      { journal := run.journal.absorb tried
        report := run.report.count pursued.1
        tries := run.tries ++ [tried]
        cancelled := pursued.2.1
        state := pursued.2.2 } := by
  unfold fixOne
  simp only [found, advised]

/-- A question about an entry is asked, pursued and written down. -/
theorem fixOne_of_found (retry : Retry σ) (attempt : Nat) {position : Nat}
    {run : RetryRun σ} {entry : Entry}
    (found : run.journal.entries[position]? = some entry) :
    ∃ tried : Try,
      tried.position = position ∧ tried.entry = entry ∧
        tried.question = entry.question attempt ∧
        tried.advice = (retry.planner (entry.question attempt) run.state).1 ∧
        retry.Outcome tried.advice tried.fate ∧
        (retry.fixOne attempt position run).tries = run.tries ++ [tried] ∧
        (retry.fixOne attempt position run).journal = run.journal.absorb tried := by
  obtain ⟨tried, asked, here, about, question, advised, pursued, made⟩ :=
    retry.fixOne_eq attempt found
  refine ⟨tried, here, about, question, ?_, ?_, ?_, ?_⟩
  · rw [← question, advised]
  · rw [pursued]
    exact outcome_pursue retry _ _ _
  · rw [made]
  · rw [made]

/-- A question about one position leaves the entries at all others alone. -/
theorem getElem?_fixOne_of_ne (retry : Retry σ) (attempt : Nat)
    {position other : Nat} (run : RetryRun σ) (elsewhere : other ≠ position) :
    (retry.fixOne attempt position run).journal.entries[other]? =
      run.journal.entries[other]? := by
  cases found : run.journal.entries[position]? with
  | none =>
      unfold fixOne
      rw [found]
  | some entry =>
      obtain ⟨tried, rfl, -, -, -, outcome, -, absorbed⟩ :=
        retry.fixOne_of_found attempt found
      rw [absorbed, Journal.getElem?_absorb _ outcome.counted]
      unfold Try.fixAt?
      rw [if_neg (Ne.symm elsewhere)]

/-! ## The loops -/

def round (retry : Retry σ) (attempt : Nat) (run : RetryRun σ) : RetryRun σ :=
  retry.fixEach attempt run.journal.failing (retry.startAttempt attempt run)

theorem fixEach_of_cancelled (retry : Retry σ) (attempt : Nat) (positions : List Nat)
    {run : RetryRun σ} (cancelled : run.cancelled = true) :
    retry.fixEach attempt positions run = run := by
  cases positions with
  | nil => rfl
  | cons position rest =>
      unfold fixEach
      rw [if_pos cancelled]

theorem attempts_of_ended (retry : Retry σ) (left attempt : Nat) {run : RetryRun σ}
    (ended : run.journal.isSuccess = true ∨ run.cancelled = true) :
    retry.attempts left attempt run = run := by
  cases left with
  | zero => rfl
  | succ left =>
      unfold attempts
      rw [if_pos (Bool.or_eq_true_iff.mpr ended)]

section Induction

variable (retry : Retry σ) {P : RetryRun σ → Prop}

/--
What every question about a failing entry preserves, a walk through failing
positions preserves.  Each position is still failing when its turn comes, as the
questions before it were about others.
-/
theorem fixEach_induction (attempt : Nat)
    (fixes : ∀ position entry run, P run → run.cancelled = false →
      run.journal.entries[position]? = some entry → entry.failed = true →
      P (retry.fixOne attempt position run))
    (positions : List Nat) (run : RetryRun σ) (distinct : positions.Nodup)
    (failing : ∀ position ∈ positions, position ∈ run.journal.failing)
    (holds : P run) : P (retry.fixEach attempt positions run) := by
  induction positions generalizing run with
  | nil => exact holds
  | cons position rest ih =>
      unfold fixEach
      cases cancelled : run.cancelled with
      | true => exact holds
      | false =>
          rw [if_neg Bool.false_ne_true]
          obtain ⟨fresh, distinctRest⟩ := List.nodup_cons.mp distinct
          obtain ⟨entry, found, failed⟩ :=
            Journal.mem_failing.mp (failing position List.mem_cons_self)
          refine ih _ distinctRest ?_ (fixes position entry run holds cancelled found failed)
          intro other member
          obtain ⟨standing, there, fails⟩ :=
            Journal.mem_failing.mp (failing other (List.mem_cons_of_mem _ member))
          have elsewhere : other ≠ position := fun same => fresh (same ▸ member)
          refine Journal.mem_failing.mpr ⟨standing, ?_, fails⟩
          rw [getElem?_fixOne_of_ne retry attempt run elsewhere]
          exact there

/-- What preserves starts and questions, preserves a whole attempt. -/
theorem round_induction
    (starts : ∀ attempt run, P run → P (retry.startAttempt attempt run))
    (fixes : ∀ attempt position entry run, P run → run.cancelled = false →
      run.journal.entries[position]? = some entry → entry.failed = true →
      P (retry.fixOne attempt position run))
    (attempt : Nat) (run : RetryRun σ) (holds : P run) : P (retry.round attempt run) :=
  fixEach_induction retry attempt (fixes attempt) _ _ (Journal.nodup_failing _)
    (fun _ member => member) (starts attempt run holds)

/--
What holds of a run with the number of its attempts, and is preserved by one more
attempt, holds at the end.  Fewer attempts than there may be are made only if
nothing fails any more or the run is cancelled.
-/
theorem attempts_rounds {I : Nat → RetryRun σ → Prop}
    (rounds : ∀ started run, I started run → run.journal.isSuccess = false →
      run.cancelled = false → I (started + 1) (retry.round (started + 1) run))
    (left started : Nat) (run : RetryRun σ) (holds : I started run) :
    ∃ more ≤ left, I (started + more) (retry.attempts left (started + 1) run) ∧
      (more < left →
        (retry.attempts left (started + 1) run).journal.isSuccess = true ∨
          (retry.attempts left (started + 1) run).cancelled = true) := by
  induction left generalizing started run with
  | zero => exact ⟨0, Nat.le_refl 0, holds, fun more => absurd more (Nat.lt_irrefl 0)⟩
  | succ left ih =>
      unfold attempts
      cases ended : run.journal.isSuccess || run.cancelled with
      | true => exact ⟨0, Nat.zero_le _, holds, fun _ => Bool.or_eq_true_iff.mp ended⟩
      | false =>
          obtain ⟨unfinished, live⟩ := Bool.or_eq_false_iff.mp ended
          obtain ⟨more, few, reached, early⟩ :=
            ih (started + 1) _ (rounds started run holds unfinished live)
          refine ⟨more + 1, Nat.succ_le_succ few, ?_, ?_⟩
          · rw [← Nat.add_assoc, Nat.add_right_comm]
            exact reached
          · exact fun less => early (Nat.lt_of_succ_lt_succ less)

/--
The induction over the attempts of a retry, by their number; what holds must not
depend on the remaining failures in the report.
-/
theorem run_rounds {I : Nat → RetryRun σ → Prop} {journal : Journal}
    {cancelled : Bool} {state : σ} (start : I 0 { journal, cancelled, state })
    (rounds : ∀ started run, I started run → run.journal.isSuccess = false →
      run.cancelled = false → I (started + 1) (retry.round (started + 1) run))
    (closes : ∀ started run, I started run →
      I started
        { run with report := { run.report with remaining := run.journal.failed } }) :
    ∃ started ≤ retry.settings.maxRetries,
      I started (retry.run journal cancelled state) ∧
        (retry.settings.isActive = true → started < retry.settings.maxRetries →
          (retry.run journal cancelled state).journal.isSuccess = true ∨
            (retry.run journal cancelled state).cancelled = true) := by
  unfold run
  cases active : retry.settings.isActive with
  | true =>
      obtain ⟨more, few, reached, early⟩ :=
        retry.attempts_rounds rounds retry.settings.maxRetries 0 _ start
      rw [Nat.zero_add] at reached
      exact ⟨more, few, closes _ _ reached, fun _ => early⟩
  | false =>
      exact ⟨0, Nat.zero_le _, closes _ _ start, fun impossible => by cases impossible⟩

/--
The induction over a retry: what holds at the start, and is preserved when an
attempt starts, when a failing entry is asked about and when the remaining
failures are reported, holds at the end.
-/
theorem run_induction {journal : Journal} {cancelled : Bool} {state : σ}
    (start : P { journal, cancelled, state })
    (starts : ∀ attempt run, P run → P (retry.startAttempt attempt run))
    (fixes : ∀ attempt position entry run, P run → run.cancelled = false →
      run.journal.entries[position]? = some entry → entry.failed = true →
      P (retry.fixOne attempt position run))
    (closes : ∀ run, P run →
      P { run with report := { run.report with remaining := run.journal.failed } }) :
    P (retry.run journal cancelled state) := by
  obtain ⟨started, -, holds, -⟩ := retry.run_rounds (I := fun _ run => P run) start
    (fun started run holds _ _ => retry.round_induction starts fixes (started + 1) run holds)
    (fun _ => closes)
  exact holds

end Induction

/-! ## Chronicles -/

/-- Tries that fit, each as those before it have left the journal. -/
inductive Chronicle (retry : Retry σ) (journal : Journal) : List Try → Prop where
  | nil : Chronicle retry journal []
  | snoc {tries : List Try} {tried : Try}
      (earlier : Chronicle retry journal tries)
      (fits : tried.Fits retry (journal.replay tries)) :
      Chronicle retry journal (tries ++ [tried])

/-- A question about a failing entry continues a chronicle, and is written down. -/
theorem Chronicle.fixOne {retry : Retry σ} {journal : Journal} {run : RetryRun σ}
    (earlier : retry.Chronicle journal run.tries)
    (written : run.journal = journal.replay run.tries) (attempt : Nat) {position : Nat}
    {entry : Entry} (found : run.journal.entries[position]? = some entry)
    (failed : entry.failed = true) :
    retry.Chronicle journal (retry.fixOne attempt position run).tries ∧
      (retry.fixOne attempt position run).journal =
        journal.replay (retry.fixOne attempt position run).tries := by
  obtain ⟨tried, rfl, rfl, asked, -, outcome, tries, absorbed⟩ :=
    retry.fixOne_of_found attempt found
  rw [tries, absorbed, Journal.replay_snoc, ← written]
  exact ⟨.snoc earlier ⟨written ▸ found, failed, ⟨attempt, asked⟩, outcome⟩, rfl⟩

/-- A run writes its tries into the journal, and they are a chronicle. -/
theorem run_chronicle (retry : Retry σ) (journal : Journal) (cancelled : Bool)
    (state : σ) :
    retry.Chronicle journal (retry.run journal cancelled state).tries ∧
      (retry.run journal cancelled state).journal =
        journal.replay (retry.run journal cancelled state).tries := by
  refine retry.run_induction
    (P := fun run => retry.Chronicle journal run.tries ∧
      run.journal = journal.replay run.tries)
    ⟨.nil, rfl⟩ (fun _ _ holds => holds) ?_ (fun _ holds => holds)
  rintro attempt position entry run ⟨earlier, written⟩ - found failed
  exact earlier.fixOne written attempt found failed

namespace Chronicle

variable {retry : Retry σ} {journal : Journal}

theorem fits {earlier : List Try} {tried : Try} {later : List Try}
    (chronicle : retry.Chronicle journal (earlier ++ tried :: later)) :
    tried.Fits retry (journal.replay earlier) := by
  generalize whole : earlier ++ tried :: later = tries at chronicle
  induction chronicle generalizing later with
  | nil => simp at whole
  | @snoc tries last chronicle fits ih =>
      rcases List.eq_nil_or_concat later with rfl | ⟨later, final, rfl⟩
      · obtain ⟨same, singleton⟩ := List.append_inj' whole rfl
        rw [same, (List.cons.inj singleton).1]
        exact fits
      · have regrouped : (earlier ++ tried :: later) ++ [final] = tries ++ [last] := by
          simpa using whole
        exact ih (List.append_inj' regrouped rfl).1

theorem outcome {tries : List Try} (chronicle : retry.Chronicle journal tries) :
    ∀ tried ∈ tries, retry.Outcome tried.advice tried.fate := by
  intro tried member
  obtain ⟨earlier, later, rfl⟩ := List.append_of_mem member
  exact chronicle.fits.outcome

theorem counted {tries : List Try} (chronicle : retry.Chronicle journal tries) :
    ∀ tried ∈ tries, tried.Counted :=
  fun tried member => (chronicle.outcome tried member).counted

theorem init {earlier later : List Try}
    (chronicle : retry.Chronicle journal (earlier ++ later)) :
    retry.Chronicle journal earlier := by
  generalize whole : earlier ++ later = tries at chronicle
  induction chronicle generalizing later with
  | nil => rw [(List.append_eq_nil_iff.mp whole).1]; exact .nil
  | @snoc tries last chronicle fits ih =>
      rcases List.eq_nil_or_concat later with rfl | ⟨later, final, rfl⟩
      · rw [List.append_nil] at whole
        rw [whole]
        exact .snoc chronicle fits
      · have regrouped : (earlier ++ later) ++ [final] = tries ++ [last] := by
          simpa using whole
        exact ih (List.append_inj' regrouped rfl).1

theorem position_lt {tries : List Try} (chronicle : retry.Chronicle journal tries) :
    ∀ tried ∈ tries, tried.position < journal.entries.length := by
  intro tried member
  obtain ⟨earlier, later, rfl⟩ := List.append_of_mem member
  obtain ⟨inside, -⟩ := List.getElem?_eq_some_iff.mp chronicle.fits.found
  rwa [Journal.length_replay journal chronicle.init.counted] at inside

/--
An entry without a failure is settled: no later try is about it, and it stays as
it is.
-/
theorem settled {earlier later : List Try} {position : Nat} {entry : Entry}
    (chronicle : retry.Chronicle journal (earlier ++ later))
    (found : (journal.replay earlier).entries[position]? = some entry)
    (clear : entry.failed = false) :
    (∀ tried ∈ later, tried.position ≠ position) ∧
      (journal.replay (earlier ++ later)).entries[position]? = some entry := by
  induction later using List.reverseRecOn with
  | nil => exact ⟨by simp, by rwa [List.append_nil]⟩
  | append_singleton later tried ih =>
      rw [← List.append_assoc] at chronicle ⊢
      obtain ⟨elsewhere, stands⟩ := ih chronicle.init
      have fits : tried.Fits retry (journal.replay (earlier ++ later)) := chronicle.fits
      -- The new try is about a failing entry, so not about this one.
      have apart : tried.position ≠ position := by
        intro same
        have about := fits.found
        rw [same, stands, Option.some.injEq] at about
        have fails := fits.failed
        rw [← about, clear] at fails
        cases fails
      refine ⟨?_, ?_⟩
      · intro other member
        rcases List.mem_append.mp member with before | last
        · exact elsewhere other before
        · rw [List.mem_singleton.mp last]
          exact apart
      · rw [Journal.replay_snoc, Journal.getElem?_absorb _ fits.counted]
        unfold Try.fixAt?
        rw [if_neg apart]
        exact stands

/-- An entry without a failure at the start is never asked about. -/
theorem untouched {tries : List Try} {position : Nat} {entry : Entry}
    (chronicle : retry.Chronicle journal tries)
    (found : journal.entries[position]? = some entry) (clear : entry.failed = false) :
    (∀ tried ∈ tries, tried.position ≠ position) ∧
      (journal.replay tries).entries[position]? = some entry := by
  rw [← List.nil_append tries] at chronicle
  exact chronicle.settled found clear

/-- Without a fix for its position an entry stays as it was. -/
theorem unfixed {tries : List Try} {position : Nat}
    (chronicle : retry.Chronicle journal tries)
    (unfixed : fixesAt position tries = []) :
    (journal.replay tries).entries[position]? = journal.entries[position]? := by
  rw [Journal.getElem?_replay journal chronicle.counted, unfixed]
  cases journal.entries[position]? <;> rfl

/-- The last fix for a position decides what becomes of the entry there. -/
theorem last_fix {tries : List Try} {position : Nat} {fixes : List Journal}
    {fix : Journal} (chronicle : retry.Chronicle journal tries)
    (last : fixesAt position tries = fixes ++ [fix]) :
    ∃ earlier tried later,
      tries = earlier ++ tried :: later ∧ tried.position = position ∧
        tried.fate.fix? = some fix ∧
        (journal.replay earlier).entries[position]? = some tried.entry ∧
        (journal.replay tries).entries[position]? = some (tried.entry.afterFix fix) := by
  obtain ⟨earlier, tried, later, rfl, aimed, silent⟩ := exists_last_of_fixesAt last
  obtain ⟨here, ran⟩ := Try.fixAt?_eq_some_iff.mp aimed
  have fits := chronicle.fits
  have found := fits.found
  rw [here] at found
  refine ⟨earlier, tried, later, rfl, here, ran, found, ?_⟩
  have quiet : ∀ other ∈ later, other.Counted := fun other member =>
    chronicle.counted other (List.mem_append_right _ (List.mem_cons_of_mem _ member))
  have absorbed := Journal.getElem?_absorb (journal.replay earlier) fits.counted position
  rw [aimed, found] at absorbed
  rw [← List.singleton_append, ← List.append_assoc, Journal.replay_append,
    Journal.replay_snoc, Journal.getElem?_replay _ quiet, absorbed, silent]
  rfl

/--
An entry that has lost its failure lost it to a fix that was a success, and is
otherwise as it stood before that fix.
-/
theorem cleared {tries : List Try} {position : Nat} {before after : Entry}
    (chronicle : retry.Chronicle journal tries)
    (found : journal.entries[position]? = some before) (failed : before.failed = true)
    (final : (journal.replay tries).entries[position]? = some after)
    (clear : after.failed = false) :
    ∃ earlier tried later fix,
      tries = earlier ++ tried :: later ∧ tried.position = position ∧
        tried.fate.fix? = some fix ∧ fix.isSuccess = true ∧
        (journal.replay earlier).entries[position]? = some tried.entry ∧
        after = { tried.entry with failure := none } := by
  rcases List.eq_nil_or_concat (fixesAt position tries) with unfixed | ⟨fixes, fix, last⟩
  · rw [chronicle.unfixed unfixed, found, Option.some.injEq] at final
    rw [← final, failed] at clear
    cases clear
  · rw [List.concat_eq_append] at last
    obtain ⟨earlier, tried, later, split, here, ran, stood, decided⟩ :=
      chronicle.last_fix last
    rw [decided, Option.some.injEq] at final
    have counted : fix.Counted := by
      rw [split] at chronicle
      exact chronicle.fits.counted fix ran
    have success : fix.isSuccess = true := by
      rw [← final, Entry.failed_afterFix counted] at clear
      simpa using clear
    refine ⟨earlier, tried, later, fix, split, here, ran, success, stood, ?_⟩
    rw [← final, Entry.afterFix_of_isSuccess counted success]

end Chronicle

/-! ## A sample -/

/-- A retry that is advised to stop the service, which then succeeds. -/
def sample : Retry Unit where
  executor := {}
  gate := {}
  settings := { enabled := true }
  runner := fun _ _ state => ({}, state)
  planner := fun _ state => ({ answer := .ok { commands := [{ argv := ["stop"] }] } }, state)

def sampleJournal : Journal :=
  Journal.empty.push { argv := ["start"], failure := some .cancelled }

theorem sample_clears :
    (sample.run sampleJournal false ()).journal.entries[0]? =
      some { argv := ["start"] } := by
  decide +kernel

end Retry

end PlanGuard
