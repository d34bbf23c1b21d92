import PlanGuard.Proofs.Executor.Cancellation
import PlanGuard.Proofs.Retry.Audit

/-!
# Where the outputs of a journal come from

An entry is written with the output of its command and with a flag that tells whether
that output was cut.  A fix that fails puts its own output into the entry and leaves
the flag as it was.  So the flag of an entry is always that of its own command, and it
belongs to the output beside it as long as no fix has failed, or the two flags happen
to agree.  The audit trail shows each output with its own flag.
-/

namespace PlanGuard

/-! ## Entries as they are first written -/

/-- An entry that says what the runner has answered, or that its command was turned away. -/
inductive Entry.Genuine (log : List Event) (entry : Entry) : Prop where
  | answered {exchange : Exchange} (noted : .requested exchange ∈ log)
      (argv : entry.argv = exchange.request.argv)
      (output : entry.output = exchange.reply.output)
      (truncated : entry.truncated = exchange.reply.truncated)
      (failure : entry.failure = exchange.reply.failure)
  | turnedAway (failure : entry.failure = some .emptyCommand ∨
        entry.failure = some .cancelled)
      (output : entry.output = "") (truncated : entry.truncated = false)

def Event.shown? : Event → Option (String × Bool)
  | .asked _ _ => none
  | .requested exchange => some (exchange.reply.output, exchange.reply.truncated)

/-- Output and flag are of one answer, or are those of a command that was turned away. -/
def Entry.Paired (log : List Event) (entry : Entry) : Prop :=
  (entry.output, entry.truncated) ∈ log.filterMap Event.shown? ∨
    (entry.output, entry.truncated) = ("", false)

instance (log : List Event) (entry : Entry) : Decidable (entry.Paired log) :=
  inferInstanceAs (Decidable (_ ∨ _))

namespace Entry

theorem Genuine.mono {log later : List Event} {entry : Entry}
    (genuine : entry.Genuine log) (kept : log ⊆ later) : entry.Genuine later := by
  cases genuine with
  | answered noted argv output truncated failure =>
      exact .answered (kept noted) argv output truncated failure
  | turnedAway failure output truncated => exact .turnedAway failure output truncated

theorem Genuine.asFixFor {log : List Event} {entry : Entry} (genuine : entry.Genuine log)
    (position : Nat) : (entry.asFixFor position).Genuine log := by
  cases genuine with
  | answered noted argv output truncated failure =>
      exact .answered noted argv output truncated failure
  | turnedAway failure output truncated => exact .turnedAway failure output truncated

theorem Genuine.paired {log : List Event} {shown entry : Entry}
    (genuine : shown.Genuine log) (output : entry.output = shown.output)
    (truncated : entry.truncated = shown.truncated) : entry.Paired log := by
  unfold Paired
  rw [output, truncated]
  cases genuine with
  | answered noted _ output truncated _ =>
      rw [output, truncated]
      exact .inl (List.mem_filterMap.mpr ⟨_, noted, rfl⟩)
  | turnedAway _ output truncated =>
      rw [output, truncated]
      exact .inr rfl

end Entry

namespace Executor

theorem Handled.genuine {executor : Executor} {index : Nat} {command : Command}
    {entries : List Entry} {exchanges : List Exchange}
    (handled : executor.Handled index command entries exchanges) :
    ∀ entry ∈ entries, entry.Genuine (exchanges.map .requested) := by
  intro entry member
  cases handled with
  | empty nameless =>
      obtain rfl := List.mem_singleton.mp member
      exact .turnedAway (.inl rfl) rfl rfl
  | skipped named =>
      obtain rfl := List.mem_singleton.mp member
      exact .turnedAway (.inr rfl) rfl rfl
  | ran named reply =>
      obtain rfl := List.mem_singleton.mp member
      exact .answered (List.mem_map_of_mem List.mem_cons_self) rfl rfl rfl rfl

variable {σ : Type} (executor : Executor) (runner : Runner σ) (watched : Bool)

theorem genuine_runFrom (index : Nat) (commands : List Command) (cancelled : Bool)
    (state : σ) :
    ∀ entry ∈ (executor.runFrom runner watched index commands cancelled state).entries,
      entry.Genuine
        (executor.runFrom runner watched index commands cancelled state).events := by
  induction commands generalizing index cancelled state with
  | nil => exact fun _ member => absurd member List.not_mem_nil
  | cons command rest ih =>
      intro entry member
      rw [runFrom_cons] at member ⊢
      unfold Course.events at ih ⊢
      dsimp only [Course.andThen] at member ⊢
      rw [List.map_append]
      rcases List.mem_append.mp member with first | later
      · exact ((executor.handled_runAt runner watched index command cancelled
          state).genuine entry first).mono (List.subset_append_left _ _)
      · exact (ih _ _ _ entry later).mono (List.subset_append_right _ _)

end Executor

def Try.Genuine (log : List Event) (tried : Try) : Prop :=
  ∀ fix, tried.fate.fix? = some fix → ∀ entry ∈ fix.entries, entry.Genuine log

theorem Retry.Chronicle.genuine {σ : Type} {retry : Retry σ} {journal : Journal}
    {tries : List Try} (chronicle : retry.Chronicle journal tries) :
    ∀ tried ∈ tries, tried.Genuine (tries.flatMap Try.events) := by
  intro tried member fix ran entry among
  obtain ⟨plan, cancelled, state, -, left, exchanges⟩ :=
    (chronicle.outcome tried member).course_of_fix ran
  rw [left] at among
  unfold Course.journal at among
  rw [Journal.entries_ofEntries] at among
  refine (retry.executor.genuine_runFrom retry.runner false 0 _ cancelled state entry
    among).mono ?_
  intro event noted
  refine List.mem_flatMap.mpr ⟨tried, member, List.mem_cons_of_mem _ ?_⟩
  rw [exchanges]
  exact noted

/-- A try marks what it adds to the audit trail, and changes nothing else in it. -/
theorem Try.Genuine.audit {log : List Event} {tried : Try} (genuine : tried.Genuine log)
    (bare : tried.Bare) : ∀ entry ∈ tried.audit, entry.Genuine log := by
  intro entry member
  obtain ⟨fix, written, ran, among, rfl⟩ := bare.exists_of_mem_audit member
  exact (genuine fix ran written among).asFixFor tried.position

/-! ## Entries after fixes -/

namespace Entry

theorem truncated_foldl_afterFix (fixes : List Journal) (entry : Entry) :
    (fixes.foldl (fun entry fix => entry.afterFix fix) entry).truncated =
      entry.truncated := by
  induction fixes generalizing entry with
  | nil => rfl
  | cons fix rest ih => rw [List.foldl_cons, ih, entry.afterFix_frame fix]

/--
The entry whose output stands in an entry after some fixes: the first failure of the
last fix that failed, or the entry itself if none did.
-/
inductive ShownAfter (own : Entry) : List Journal → Entry → Prop where
  | own {fixes : List Journal}
      (successes : ∀ fix ∈ fixes, fix.firstFailure? = none) : ShownAfter own fixes own
  | fix {earlier later : List Journal} {fix : Journal} {shown : Entry}
      (failed : fix.firstFailure? = some shown)
      (successes : ∀ other ∈ later, other.firstFailure? = none) :
      ShownAfter own (earlier ++ fix :: later) shown

theorem exists_shownAfter (own : Entry) (fixes : List Journal) :
    ∃ shown, ShownAfter own fixes shown ∧
      (fixes.foldl (fun entry fix => entry.afterFix fix) own).output = shown.output := by
  induction fixes using List.reverseRecOn with
  | nil => exact ⟨own, .own fun _ member => absurd member List.not_mem_nil, rfl⟩
  | append_singleton fixes last ih =>
      rw [List.foldl_append, List.foldl_cons, List.foldl_nil]
      cases found : last.firstFailure? with
      | some shown =>
          refine ⟨shown, .fix found fun _ member => absurd member List.not_mem_nil, ?_⟩
          unfold afterFix
          rw [found]
      | none =>
          obtain ⟨shown, source, output⟩ := ih
          refine ⟨shown, ?_, ?_⟩
          · have clean {later : List Journal}
                (successes : ∀ other ∈ later, other.firstFailure? = none) :
                ∀ other ∈ later ++ [last], other.firstFailure? = none :=
              List.forall_mem_append.mpr ⟨successes, List.forall_mem_singleton.mpr found⟩
            cases source with
            | own successes => exact .own (clean successes)
            | fix failed successes =>
                rw [List.append_assoc, List.cons_append]
                exact .fix failed (clean successes)
          · rw [← output]
            unfold afterFix
            rw [found]

end Entry

/-! ## Plans and retries after them -/

/--
A journal that the run of a plan and retries after it have led to, with the entries
of the plan, the tries, and what has reached all the planners and runners.
-/
inductive Recorded : List Entry → List Try → Journal → List Event → Prop where
  | ran {σ : Type} (executor : Executor) (runner : Runner σ) (watched : Bool)
      (plan : Plan) (cancelled : Bool) (state : σ) :
      Recorded (executor.runPlan runner watched plan cancelled state).entries []
        (executor.runPlan runner watched plan cancelled state).journal
        (executor.events runner watched plan cancelled state)
  | retried {σ : Type} {first : List Entry} {tries : List Try} {journal : Journal}
      {log : List Event} (before : Recorded first tries journal log)
      (retry : Retry σ) (cancelled : Bool) (state : σ) :
      Recorded first (tries ++ (retry.run journal cancelled state).tries)
        (retry.run journal cancelled state).journal
        (log ++ retry.events journal cancelled state)

namespace Recorded

variable {first : List Entry} {tries : List Try} {journal : Journal} {log : List Event}

theorem written (recorded : Recorded first tries journal log) :
    journal = (Journal.ofEntries first).replay tries := by
  induction recorded with
  | ran => rfl
  | retried before retry cancelled state ih =>
      obtain ⟨-, written⟩ := retry.run_chronicle _ cancelled state
      rw [Journal.replay_append, ← ih]
      exact written

theorem counted (recorded : Recorded first tries journal log) :
    ∀ tried ∈ tries, tried.Counted := by
  induction recorded with
  | ran => exact fun _ member => absurd member List.not_mem_nil
  | retried before retry cancelled state ih =>
      obtain ⟨chronicle, -⟩ := retry.run_chronicle _ cancelled state
      exact List.forall_mem_append.mpr ⟨ih, chronicle.counted⟩

/-- All entries that were ever written are genuine. -/
theorem genuine (recorded : Recorded first tries journal log) :
    (∀ entry ∈ first, entry.Genuine log) ∧
      ∀ tried ∈ tries, tried.Bare ∧ tried.Genuine log := by
  induction recorded with
  | ran executor runner watched plan cancelled state =>
      refine ⟨?_, fun _ member => absurd member List.not_mem_nil⟩
      rw [executor.events_eq]
      exact executor.genuine_runFrom runner watched 0 plan.commands cancelled state
  | @retried _ first tries journal log before retry cancelled state ih =>
      obtain ⟨chronicle, -⟩ := retry.run_chronicle journal cancelled state
      obtain ⟨own, noted⟩ := ih
      rw [retry.events_eq]
      refine ⟨fun entry member => (own entry member).mono (List.subset_append_left _ _), ?_⟩
      intro tried member
      rcases List.mem_append.mp member with earlier | later
      · obtain ⟨bare, genuine⟩ := noted tried earlier
        exact ⟨bare, fun fix ran entry among =>
          (genuine fix ran entry among).mono (List.subset_append_left _ _)⟩
      · exact ⟨chronicle.bare tried later, fun fix ran entry among =>
          (chronicle.genuine tried later fix ran entry among).mono
            (List.subset_append_right _ _)⟩

end Recorded

/-- What is shown after genuine fixes of a genuine entry is genuine. -/
theorem Entry.ShownAfter.genuine {log : List Event} {own shown : Entry}
    {fixes : List Journal} (source : ShownAfter own fixes shown) (written : own.Genuine log)
    (fixed : ∀ fix ∈ fixes, ∀ entry ∈ fix.entries, entry.Genuine log) :
    shown.Genuine log := by
  cases source with
  | own => exact written
  | fix failed =>
      exact fixed _ (List.mem_append_right _ List.mem_cons_self) shown
        (List.mem_of_find?_eq_some failed)

/--
Where the output and the flag of an entry come from, after a plan and any number of
retries.  The flag is that of the entry's own command.  The output is that of the
first failure of the last fix that failed for the entry, or the entry's own if none
did; so output and flag are of one answer if the two commands have the same flag.
An entry of the audit trail shows what its own command was answered.
-/
theorem recorded_outputs {first : List Entry} {tries : List Try} {journal : Journal}
    {log : List Event} (recorded : Recorded first tries journal log) :
    (∀ entry ∈ journal.audit, entry.Genuine log) ∧
      journal.entries.length = first.length ∧
      ∀ position entry, journal.entries[position]? = some entry →
        ∃ own shown : Entry, first[position]? = some own ∧ own.Genuine log ∧
          Entry.ShownAfter own (fixesAt position tries) shown ∧ shown.Genuine log ∧
          entry.truncated = own.truncated ∧ entry.output = shown.output ∧
          (shown.truncated = own.truncated → entry.Paired log) := by
  obtain ⟨written, noted⟩ := recorded.genuine
  rw [recorded.written]
  refine ⟨?_, ?_, ?_⟩
  · rw [Journal.audit_replay, Journal.audit_ofEntries, List.nil_append]
    intro entry member
    obtain ⟨tried, among, inside⟩ := List.mem_flatMap.mp member
    obtain ⟨bare, genuine⟩ := noted tried among
    exact genuine.audit bare entry inside
  · rw [Journal.length_replay _ recorded.counted, Journal.entries_ofEntries]
  · intro position entry found
    rw [Journal.getElem?_replay _ recorded.counted, Journal.entries_ofEntries] at found
    obtain ⟨own, stood, rfl⟩ := Option.map_eq_some_iff.mp found
    obtain ⟨shown, source, output⟩ := Entry.exists_shownAfter own (fixesAt position tries)
    have genuineOwn := written own (List.mem_of_getElem? stood)
    have genuineShown := source.genuine genuineOwn <| by
      intro fix member
      obtain ⟨tried, among, aimed⟩ := List.mem_filterMap.mp member
      exact (noted tried among).2 fix (Try.fixAt?_eq_some_iff.mp aimed).2
    have flag := Entry.truncated_foldl_afterFix (fixesAt position tries) own
    exact ⟨own, shown, stood, genuineOwn, source, genuineShown, flag, output,
      fun same => genuineShown.paired output (flag.trans same.symm)⟩

/-! ## A flag beside another output -/

namespace Retry

/-- A retry whose fixes fail: one after a long output, one with a long output. -/
def overflowing : Retry Unit where
  executor := {}
  gate := {}
  settings := { enabled := true, maxRetries := 1 }
  runner := fun _ request state =>
    (if request.argv = ["update"] then
      { output := "a" ++ Buffer.marker, truncated := true, failure := some (.exit 1) }
    else if request.argv = ["reset"] then
      { output := "locked", failure := some (.exit 2) }
    else if request.argv = ["ping"] then { output := "lost", failure := some (.exit 1) }
    else
      { output := "b" ++ Buffer.marker, truncated := true, failure := some (.exit 3) },
      state)
  planner := fun question state =>
    let fix := if question.command = "update" then "reset" else "logread"
    ({ answer := .ok { commands := [{ argv := [fix] }] } }, state)

def overflowingPlan : Plan :=
  { commands := [{ argv := ["update"] }, { argv := ["ping"] }] }

def overflowingCourse : Course Unit :=
  overflowing.executor.runPlan overflowing.runner false overflowingPlan false ()

def overflowingRun : RetryRun Unit :=
  overflowing.run overflowingCourse.journal false ()

def overflowingLog : List Event :=
  overflowing.executor.events overflowing.runner false overflowingPlan false () ++
    overflowing.events overflowingCourse.journal false ()

theorem recorded_overflowing :
    Recorded overflowingCourse.entries overflowingRun.tries overflowingRun.journal
      overflowingLog :=
  .retried (.ran overflowing.executor overflowing.runner false overflowingPlan false ())
    overflowing false ()

/-- The first entry shows the output of its fix beside the flag of its own command. -/
theorem overflowing_outputs :
    ∃ entry own shown : Entry,
      overflowingRun.journal.entries[0]? = some entry ∧
      overflowingCourse.entries[0]? = some own ∧
      Entry.ShownAfter own (fixesAt 0 overflowingRun.tries) shown ∧
      entry.truncated = own.truncated ∧ entry.output = shown.output := by
  obtain ⟨entry, found⟩ : ∃ entry, overflowingRun.journal.entries[0]? = some entry :=
    Option.isSome_iff_exists.mp (by decide +kernel)
  obtain ⟨own, shown, stood, -, source, -, flag, output, -⟩ :=
    (recorded_outputs recorded_overflowing).2.2 0 entry found
  exact ⟨entry, own, shown, found, stood, source, flag, output⟩

/--
A complete output can be shown as cut, and one that was cut as complete: neither pair
is one that the runner has answered.
-/
theorem flag_beside_another_output :
    Recorded overflowingCourse.entries overflowingRun.tries overflowingRun.journal
        overflowingLog ∧
      overflowingRun.journal.entries.map (fun entry => (entry.output, entry.truncated)) =
        [("locked", true), ("b" ++ Buffer.marker, false)] ∧
      ∀ entry ∈ overflowingRun.journal.entries, ¬ entry.Paired overflowingLog :=
  ⟨recorded_overflowing, by decide +kernel, by decide +kernel⟩

end Retry

end PlanGuard
