import PlanGuard.Proofs.Retry.Attempts
import PlanGuard.Proofs.Retry.Cancellation
import Mathlib.Data.List.Nodup

/-!
# What the planner is asked, and in what order

An attempt asks once about every position that fails as it starts, from the first
to the last, and tells of each entry as the earlier attempts have left it.
`standing` is the journal that they leave, `inquiries` what is to be asked about a
journal; the questions of a run are those of its attempts, one after another, and
only a cancellation can cut the last attempt short.  What is told of a failure is
never blank, as every failure has words.
-/

namespace PlanGuard

/-! ## What is told of a failure -/

theorem Text.allBlank_append (first second : String) :
    Text.allBlank (first ++ second) =
      (Text.allBlank first && Text.allBlank second) := by
  unfold Text.allBlank
  rw [String.toList_append, List.all_append]

/-- Every failure has words. -/
theorem Failure.allBlank_message (failure : Failure) :
    Text.allBlank failure.message = false := by
  unfold message
  have opens {text : String} (rest : String) (inked : Text.allBlank text = false) :
      Text.allBlank (text ++ rest) = false := by
    rw [Text.allBlank_append, inked, Bool.false_and]
  cases failure with
  | emptyCommand => decide
  | spawn program message =>
      have start : Text.allBlank "failed to start " = false := by decide
      exact opens _ (opens _ (opens _ start))
  | exit code =>
      have start : Text.allBlank "exit status " = false := by decide
      exact opens _ start
  | signal number =>
      have start : Text.allBlank "terminated by signal " = false := by decide
      exact opens _ start
  | timeout after =>
      have start : Text.allBlank "timed out after " = false := by decide
      exact opens _ (opens _ start)
  | cancelled => decide
  | resourceLimit reason => exact opens reason (by decide)
  | rejected reason => exact opens reason (by decide)
  | io message => exact opens message (by decide)

/-- What is told of an entry that fails is its output, or else its failure. -/
theorem Entry.complaint_eq {entry : Entry} {failure : Failure}
    (carried : entry.failure = some failure) :
    entry.complaint =
      if Text.allBlank entry.output then failure.message else entry.output := by
  unfold complaint
  rw [carried]

theorem Entry.allBlank_complaint {entry : Entry} (failed : entry.failed = true) :
    Text.allBlank entry.complaint = false := by
  obtain ⟨failure, carried⟩ := Entry.failed_iff.mp failed
  rw [Entry.complaint_eq carried]
  split
  next => exact failure.allBlank_message
  next inked => exact eq_false_of_ne_true inked

/-! ## What is to be asked about a journal -/

def Event.question? : Event → Option Question
  | .asked question _ => some question
  | .requested _ => none

def Try.inquiry (tried : Try) : Nat × Question :=
  (tried.position, tried.question)

theorem filterMap_question?_events (tries : List Try) :
    (tries.flatMap Try.events).filterMap Event.question? =
      tries.map (·.question) := by
  induction tries with
  | nil => rfl
  | cons tried rest ih =>
      have requests : (tried.fate.exchanges.map Event.requested).filterMap
          Event.question? = [] := by
        rw [List.filterMap_map]
        exact List.filterMap_eq_nil_iff.mpr fun _ _ => rfl
      rw [List.flatMap_cons, List.filterMap_append, ih, List.map_cons]
      unfold Try.events
      rw [List.filterMap_cons_some (f := Event.question?) rfl, requests]
      rfl

namespace Journal

/-- What an attempt has to ask: a question about every entry that fails, in order. -/
def inquiries (journal : Journal) (attempt : Nat) : List (Nat × Question) :=
  journal.failing.filterMap fun position =>
    (journal.entries[position]?).map fun entry => (position, entry.question attempt)

theorem mem_inquiries {journal : Journal} {attempt position : Nat}
    {question : Question} :
    (position, question) ∈ journal.inquiries attempt ↔
      ∃ entry, journal.entries[position]? = some entry ∧ entry.failed = true ∧
        question = entry.question attempt := by
  unfold inquiries
  rw [List.mem_filterMap]
  constructor
  · rintro ⟨other, member, asked⟩
    obtain ⟨entry, found, same⟩ := Option.map_eq_some_iff.mp asked
    obtain ⟨rfl, rfl⟩ := Prod.mk.inj same
    obtain ⟨standing, there, failed⟩ := mem_failing.mp member
    rw [found, Option.some.injEq] at there
    exact ⟨entry, found, there ▸ failed, rfl⟩
  · rintro ⟨entry, found, failed, rfl⟩
    exact ⟨position, mem_failing.mpr ⟨entry, found, failed⟩, by rw [found]; rfl⟩

theorem map_fst_inquiries (journal : Journal) (attempt : Nat) :
    (journal.inquiries attempt).map Prod.fst = journal.failing := by
  unfold inquiries
  rw [List.map_filterMap]
  rw [List.filterMap_congr (g := some), List.filterMap_some]
  intro position member
  obtain ⟨entry, found, -⟩ := mem_failing.mp member
  rw [found]
  rfl

end Journal

namespace Retry

variable {σ : Type}

/-! ## The questions of an attempt -/

/-- An attempt asks what is to be asked about the journal, unless it is cancelled. -/
theorem round_inquiries (retry : Retry σ) (attempt : Nat) (run : RetryRun σ) :
    ∃ cut,
      (retry.round attempt run).tries.map Try.inquiry ++ cut =
          run.tries.map Try.inquiry ++ run.journal.inquiries attempt ∧
        cut <:+ run.journal.inquiries attempt ∧
        (cut ≠ [] → (retry.round attempt run).cancelled = true) := by
  obtain ⟨round, tries, ⟨cut, split, short⟩, asked⟩ := retry.round_tries attempt run
  have same : run.journal.inquiries attempt =
      round.map Try.inquiry ++ cut.filterMap fun position =>
        (run.journal.entries[position]?).map fun entry =>
          (position, entry.question attempt) := by
    unfold Journal.inquiries
    rw [split, List.filterMap_append, List.filterMap_map]
    congr 1
    rw [← List.filterMap_eq_map]
    refine List.filterMap_congr fun tried member => ?_
    obtain ⟨found, question⟩ := asked tried member
    rw [Function.comp_apply, Function.comp_apply, found, Option.map_some, ← question]
    rfl
  refine ⟨_, ?_, ⟨_, same.symm⟩, ?_⟩
  · rw [same, tries, List.map_append, List.append_assoc]
  · intro some
    apply short
    rintro rfl
    exact some rfl

section Reached

variable {retry : Retry σ} {journal : Journal} {cancelled : Bool} {state : σ}

/--
What has been asked is what was to be asked at each attempt, one attempt after the
other; only a cancellation leaves the last of it out.
-/
theorem Goes.inquiries {made : Nat} (goes : retry.Goes journal cancelled state made) :
    ∃ cut,
      (retry.reached journal cancelled state made).tries.map Try.inquiry ++ cut =
          (List.range made).flatMap (fun earlier =>
            (retry.reached journal cancelled state earlier).journal.inquiries
              (earlier + 1)) ∧
        cut <:+ (retry.reached journal cancelled state (made - 1)).journal.inquiries made ∧
        (cut ≠ [] → (retry.reached journal cancelled state made).cancelled = true) := by
  induction made with
  | zero => exact ⟨[], rfl, List.nil_suffix, fun some => absurd rfl some⟩
  | succ made ih =>
      obtain ⟨unfinished, live⟩ := goes made (Nat.lt_succ_self made)
      obtain ⟨cut, whole, -, short⟩ := ih (goes.of_le (Nat.le_succ made))
      -- Nothing is left out so far, as the run goes on.
      have uncut : cut = [] := by
        by_contra some
        rw [short some] at live
        cases live
      rw [uncut, List.append_nil] at whole
      rw [retry.reached_succ journal cancelled state unfinished live, List.range_succ,
        List.flatMap_append, List.flatMap_singleton, ← whole]
      exact retry.round_inquiries (made + 1) _

/-- Every question belongs to an attempt, and is about an entry that then fails. -/
theorem Goes.asked {made : Nat} (goes : retry.Goes journal cancelled state made)
    {tried : Try} (member : tried ∈ (retry.reached journal cancelled state made).tries) :
    ∃ earlier entry, earlier < made ∧
      (retry.reached journal cancelled state earlier).journal.entries[tried.position]? =
        some entry ∧
      entry.failed = true ∧ tried.question = entry.question (earlier + 1) := by
  obtain ⟨cut, whole, -⟩ := goes.inquiries
  have among : tried.inquiry ∈ (List.range made).flatMap fun earlier =>
      (retry.reached journal cancelled state earlier).journal.inquiries (earlier + 1) := by
    rw [← whole]
    exact List.mem_append_left cut (List.mem_map_of_mem member)
  obtain ⟨earlier, less, inquiry⟩ := List.mem_flatMap.mp among
  obtain ⟨entry, found, failed, question⟩ := Journal.mem_inquiries.mp inquiry
  exact ⟨earlier, entry, List.mem_range.mp less, found, failed, question⟩

theorem Goes.nodup {made : Nat} (goes : retry.Goes journal cancelled state made) :
    ((retry.reached journal cancelled state made).tries.map fun tried =>
      (tried.position, tried.question.attempt)).Nodup := by
  obtain ⟨cut, whole, -⟩ := goes.inquiries
  have pairs (earlier : Nat) :
      ((retry.reached journal cancelled state earlier).journal.inquiries
          (earlier + 1)).map (fun inquiry => (inquiry.1, inquiry.2.attempt)) =
        (retry.reached journal cancelled state earlier).journal.failing.map
          fun position => (position, earlier + 1) := by
    rw [← Journal.map_fst_inquiries _ (earlier + 1), List.map_map]
    refine List.map_congr_left fun inquiry member => ?_
    obtain ⟨entry, -, -, question⟩ := Journal.mem_inquiries.mp member
    rw [question]
    rfl
  have distinct : (((List.range made).flatMap fun earlier =>
      (retry.reached journal cancelled state earlier).journal.inquiries
        (earlier + 1)).map fun inquiry => (inquiry.1, inquiry.2.attempt)).Nodup := by
    rw [List.map_flatMap]
    simp only [pairs]
    rw [List.nodup_flatMap]
    constructor
    · intro earlier _
      exact (Journal.nodup_failing _).map fun _ _ same => (Prod.mk.inj same).1
    · refine List.nodup_range.imp fun {earlier later} apart => ?_
      intro pair first second
      obtain ⟨_, -, rfl⟩ := List.mem_map.mp first
      obtain ⟨_, -, same⟩ := List.mem_map.mp second
      exact apart (Nat.succ.inj (Prod.mk.inj same).2).symm
  rw [← whole, List.map_append, List.map_map] at distinct
  exact distinct.of_append_left

end Reached

/-! ## Cancellations -/

/-- A try during which the run is cancelled is the last. -/
theorem last_of_cancels (retry : Retry σ) {journal : Journal} {cancelled : Bool}
    {state : σ} {earlier later : List Try} {tried : Try}
    (split : (retry.run journal cancelled state).tries = earlier ++ tried :: later)
    (disturbed : ∃ event ∈ tried.events, event.cancels = true) : later = [] := by
  obtain ⟨event, member, cancels⟩ := disturbed
  obtain ⟨front, back, inside⟩ := List.append_of_mem member
  obtain ⟨started, latest⟩ := retry.latest_run journal cancelled state
  have nothing : back ++ later.flatMap Try.events = [] := by
    refine latest.heeds.last (earlier.flatMap Try.events ++ front) event _ ?_ cancels
    rw [split, List.flatMap_append, List.flatMap_cons, inside, List.append_assoc,
      List.append_assoc, List.cons_append]
  cases later with
  | nil => rfl
  | cons next rest => simp [Try.events] at nothing

/-- A run is cancelled by someone: beforehand, by an interruption, or during a try. -/
theorem cause_of_cancelled (retry : Retry σ) {journal : Journal} {cancelled : Bool}
    {state : σ} (stopped : (retry.run journal cancelled state).cancelled = true) :
    cancelled = true ∨ (∃ attempt state, retry.interrupts attempt state = true) ∨
      ∃ tried ∈ (retry.run journal cancelled state).tries,
        ∃ event ∈ tried.events, event.cancels = true := by
  refine retry.run_induction
    (P := fun run => run.cancelled = true →
      cancelled = true ∨ (∃ attempt state, retry.interrupts attempt state = true) ∨
        ∃ tried ∈ run.tries, ∃ event ∈ tried.events, event.cancels = true)
    .inl ?_ ?_ (fun _ holds => holds) stopped
  · intro attempt run holds stopped
    rcases Bool.or_eq_true_iff.mp stopped with before | interrupted
    · exact holds before
    · exact .inr (.inl ⟨attempt, run.state, interrupted⟩)
  · intro attempt position entry run _ live found _ stopped
    obtain ⟨tried, -, tries, -, noticed⟩ := retry.heeds_fixOne attempt live found
    rw [noticed] at stopped
    rw [tries]
    exact .inr (.inr ⟨tried, List.mem_append_right _ List.mem_cons_self,
      List.any_eq_true.mp stopped⟩)

/-! ## The questions of a run -/

/--
What the planner is asked in a run, as it has noted it itself.  The questions are
those that were due: at each attempt one for every position that fails in the
journal as the attempts before it have left it, in increasing order.  If the run is
not cancelled none is left out; if it is, only questions of the last attempt can
be, and these come after the try during which it was cancelled, which is the last.
No position is asked about twice in an attempt.  Every question is about an entry
of the journal that has failed at the start of every attempt so far; it gives the
command line of the entry with its output or, if that is blank, the failure in
words, and so is never blank.
-/
theorem run_questions (retry : Retry σ) (journal : Journal) (cancelled : Bool)
    (state : σ) :
    let done := retry.run journal cancelled state
    let standing (made : Nat) : Journal :=
      (retry.reached journal cancelled state made).journal
    let due := (List.range done.report.attempts).flatMap fun made =>
      (standing made).inquiries (made + 1)
    (retry.events journal cancelled state).filterMap Event.question? =
        done.tries.map (·.question) ∧
      done.journal = standing done.report.attempts ∧
      (∀ made attempt,
        ((standing made).inquiries attempt).map Prod.fst = (standing made).failing ∧
          (standing made).failing.Pairwise (· < ·)) ∧
      (∃ cut,
        done.tries.map Try.inquiry ++ cut = due ∧
          cut <:+ (standing (done.report.attempts - 1)).inquiries done.report.attempts ∧
          (done.cancelled = false → cut = []) ∧
          (cut ≠ [] →
            (∃ attempt state, retry.interrupts attempt state = true) ∨
              ∃ earlier tried, done.tries = earlier ++ [tried] ∧
                ∃ event ∈ tried.events, event.cancels = true)) ∧
      (∀ earlier tried later, done.tries = earlier ++ tried :: later →
        (∃ event ∈ tried.events, event.cancels = true) → later = []) ∧
      (done.tries.map fun tried => (tried.position, tried.question.attempt)).Nodup ∧
      ∀ tried ∈ done.tries, ∃ made entry failure,
        made < done.report.attempts ∧
          (standing made).entries[tried.position]? = some entry ∧
          entry.failure = some failure ∧
          tried.question =
            { command := entry.argv.render
              output :=
                if Text.allBlank entry.output then failure.message else entry.output
              attempt := made + 1 } ∧
          Text.allBlank tried.question.output = false ∧
          ∀ earlier ≤ made, tried.position ∈ (standing earlier).failing := by
  obtain ⟨goes, written, tries, stops⟩ := retry.run_reached journal cancelled state
  refine ⟨?_, written, ?_, ?_, ?_, ?_, ?_⟩
  · rw [events_eq, filterMap_question?_events]
  · intro made attempt
    exact ⟨Journal.map_fst_inquiries _ attempt, Journal.pairwise_failing _⟩
  · obtain ⟨cut, whole, ends, short⟩ := goes.inquiries
    rw [← tries] at whole
    rw [← stops] at short
    refine ⟨cut, whole, ends, ?_, ?_⟩
    · intro live
      by_contra some
      rw [short some] at live
      cases live
    · intro some
      rcases retry.cause_of_cancelled (short some) with before | interrupted | during
      · -- A run that was cancelled beforehand makes no attempt, so nothing was due.
        obtain ⟨started, latest⟩ := retry.latest_run journal cancelled state
        rw [latest.attempts_eq, latest.none_before before] at whole
        exact absurd (List.append_eq_nil_iff.mp whole).2 some
      · exact .inl interrupted
      · obtain ⟨tried, member, disturbed⟩ := during
        obtain ⟨earlier, later, split⟩ := List.append_of_mem member
        rw [retry.last_of_cancels split disturbed] at split
        exact .inr ⟨earlier, tried, split, disturbed⟩
  · intro earlier tried later split disturbed
    exact retry.last_of_cancels split disturbed
  · rw [tries]
    exact goes.nodup
  · intro tried member
    rw [tries] at member
    obtain ⟨made, entry, less, found, failed, question⟩ := goes.asked member
    obtain ⟨failure, carried⟩ := Entry.failed_iff.mp failed
    refine ⟨made, entry, failure, less, found, carried, ?_, ?_, ?_⟩
    · rw [question, ← Entry.complaint_eq carried]
      rfl
    · rw [question]
      exact Entry.allBlank_complaint failed
    · intro earlier before
      exact (goes.of_le (Nat.le_of_lt less)).failing before _
        (Journal.mem_failing.mpr ⟨entry, found, failed⟩)

/-- Of two failures one is fixed at once, and the other is asked about as it then is. -/
theorem stubborn_questions :
    (stubborn.events stubbornJournal false ()).filterMap Event.question? =
      [{ command := "mount", output := "exit status 32", attempt := 1 },
        { command := "start", output := "cancelled", attempt := 1 },
        { command := "mount", output := "exit status 1", attempt := 2 }] := by
  obtain ⟨noted, -, -, ⟨cut, whole, -, uncut, -⟩, -⟩ :=
    run_questions stubborn stubbornJournal false ()
  have live : (stubborn.run stubbornJournal false ()).cancelled = false := by
    decide +kernel
  rw [uncut live, List.append_nil] at whole
  have questions := congrArg (List.map Prod.snd) whole
  rw [List.map_map] at questions
  refine (noted.trans questions).trans ?_
  decide +kernel

end Retry

end PlanGuard
