import PlanGuard.Proofs.Retry.Attempts

/-!
# Retries that go by what they are asked

A retry is `Steady` if its runner answers by the argv and its planner by the
question alone, and nobody cancels.  What comes of asking about an entry can then be
foreseen from the entry and the attempt, in whatever state the runner and the
planner are.  So the tries about a position depend on the entry there and on no
other: `Steady.agree` compares two runs with the same entry at some position each.
-/

namespace PlanGuard

namespace Try

def moved (position : Nat) (tried : Try) : Try :=
  { tried with position }

end Try

/-! ## The tries about a position -/

def triesAt (position : Nat) (tries : List Try) : List Try :=
  tries.filter fun tried => tried.position == position

theorem triesAt_append (position : Nat) (earlier later : List Try) :
    triesAt position (earlier ++ later) =
      triesAt position earlier ++ triesAt position later :=
  List.filter_append earlier later

theorem mem_triesAt {position : Nat} {tries : List Try} {tried : Try} :
    tried ∈ triesAt position tries ↔ tried ∈ tries ∧ tried.position = position := by
  unfold triesAt
  rw [List.mem_filter, beq_iff_eq]

theorem triesAt_eq_nil {position : Nat} {tries : List Try}
    (absent : position ∉ tries.map (·.position)) : triesAt position tries = [] := by
  apply List.eq_nil_iff_forall_not_mem.mpr
  intro tried member
  obtain ⟨among, here⟩ := mem_triesAt.mp member
  exact absent (here ▸ List.mem_map_of_mem among)

/-- Where every position is tried once, one try is about a position that is tried. -/
theorem triesAt_eq_singleton {position : Nat} {tries : List Try} {tried : Try}
    (distinct : (tries.map (·.position)).Nodup) (member : tried ∈ tries)
    (here : tried.position = position) : triesAt position tries = [tried] := by
  obtain ⟨front, back, rfl⟩ := List.append_of_mem member
  rw [List.map_append, List.map_cons, here] at distinct
  obtain ⟨-, ends, apart⟩ := List.nodup_append.mp distinct
  have before : position ∉ front.map (·.position) := fun among =>
    apart position among position List.mem_cons_self rfl
  rw [← List.singleton_append, triesAt_append, triesAt_append, triesAt_eq_nil before,
    triesAt_eq_nil (List.nodup_cons.mp ends).1, List.append_nil, List.nil_append]
  simp [triesAt, here]

theorem fixesAt_eq (position : Nat) (tries : List Try) :
    fixesAt position tries = (triesAt position tries).filterMap (·.fate.fix?) := by
  unfold fixesAt triesAt
  rw [List.filterMap_filter]
  refine List.filterMap_congr fun tried _ => ?_
  unfold Try.fixAt?
  simp only [beq_iff_eq]

namespace Retry

variable {σ : Type}

/-- Where the tries about two positions agree, so do the entries there. -/
theorem entries_agree (retry : Retry σ) {first second : Journal} {here there : Nat}
    (same : first.entries[here]? = second.entries[there]?) (state other : σ) {made : Nat}
    (tries : triesAt here (retry.reached first false state made).tries =
      (triesAt there (retry.reached second false other made).tries).map (.moved here)) :
    (retry.reached first false state made).journal.entries[here]? =
      (retry.reached second false other made).journal.entries[there]? := by
  obtain ⟨chronicle, written⟩ := retry.reached_chronicle first false state made
  obtain ⟨otherwise, noted⟩ := retry.reached_chronicle second false other made
  rw [written, noted, Journal.getElem?_replay first chronicle.counted,
    Journal.getElem?_replay second otherwise.counted, same, fixesAt_eq, fixesAt_eq, tries,
    List.filterMap_map]
  rfl

/-! ## Steady runners and planners -/

/--
The runner answers by the argv alone, the planner by the question alone, and
nobody cancels.
-/
structure Steady (retry : Retry σ) (reply : Argv → Reply) (advice : Question → Advice) :
    Prop where
  replies : ∀ watched request state,
    (retry.runner watched request state).1 = reply request.argv
  advises : ∀ question state, (retry.planner question state).1 = advice question
  runs_on : ∀ argv, (reply argv).cancels = false
  stays_on : ∀ question, (advice question).cancels = false
  quiet : ∀ attempt state, retry.interrupts attempt state = false

/-- What comes of asking about an entry, as a state of runner and planner lets foresee. -/
def foresee (retry : Retry σ) (advice : Question → Advice) (state : σ)
    (attempt position : Nat) (entry : Entry) : Try :=
  let question := entry.question attempt
  { position, entry, question
    advice := advice question
    fate := (retry.pursue (advice question) false state).1 }

namespace Steady

variable {retry : Retry σ} {reply : Argv → Reply} {advice : Question → Advice}
  (steady : retry.Steady reply advice)

include steady

theorem runAt (executor : Executor) (watched : Bool) (index : Nat) (command : Command)
    (state other : σ) :
    let here := executor.runAt retry.runner watched index command false state
    let there := executor.runAt retry.runner watched index command false other
    here.entries = there.entries ∧ here.exchanges = there.exchanges ∧
      here.cancelled = false := by
  unfold Executor.runAt
  cases command.argv.isEmpty with
  | true => exact ⟨rfl, rfl, rfl⟩
  | false =>
      simp only [Bool.false_eq_true, if_false, steady.replies]
      exact ⟨trivial, trivial, steady.runs_on _⟩

theorem runFrom (executor : Executor) (watched : Bool) (index : Nat)
    (commands : List Command) (state other : σ) :
    let here := executor.runFrom retry.runner watched index commands false state
    let there := executor.runFrom retry.runner watched index commands false other
    here.entries = there.entries ∧ here.exchanges = there.exchanges ∧
      here.cancelled = false := by
  induction commands generalizing index state other with
  | nil => exact ⟨rfl, rfl, rfl⟩
  | cons command rest ih =>
      obtain ⟨entries, exchanges, live⟩ :=
        steady.runAt executor watched index command state other
      obtain ⟨-, -, alive⟩ := steady.runAt executor watched index command other state
      rw [Executor.runFrom_cons, Executor.runFrom_cons]
      dsimp only [Course.andThen] at *
      rw [live, alive, entries, exchanges]
      obtain ⟨laterEntries, laterExchanges, ends⟩ := ih (index + 1)
        (executor.runAt retry.runner watched index command false state).state
        (executor.runAt retry.runner watched index command false other).state
      exact ⟨by rw [laterEntries], by rw [laterExchanges], ends⟩

theorem pursue (advised : Advice) (state other : σ) :
    (retry.pursue advised false state).1 = (retry.pursue advised false other).1 ∧
      (retry.pursue advised false state).2.1 = false := by
  unfold Retry.pursue
  cases advised.resolve retry.settings.fixTimeout with
  | error failure => exact ⟨rfl, rfl⟩
  | ok plan =>
      dsimp only
      split
      · exact ⟨rfl, rfl⟩
      · split
        · exact ⟨rfl, rfl⟩
        · obtain ⟨entries, exchanges, live⟩ := steady.runFrom retry.executor false 0
            (plan.truncate retry.settings.maxCommands).commands state other
          refine ⟨?_, live⟩
          unfold Executor.runPlan Course.journal
          dsimp only
          rw [entries, exchanges]

/-- Asking about an entry adds the try that was foreseen. -/
theorem fixOne (reference : σ) (attempt : Nat) {position : Nat} {run : RetryRun σ}
    {entry : Entry} (live : run.cancelled = false)
    (found : run.journal.entries[position]? = some entry) :
    (retry.fixOne attempt position run).cancelled = false ∧
      (retry.fixOne attempt position run).tries =
        run.tries ++ [retry.foresee advice reference attempt position entry] := by
  obtain ⟨tried, asked, here, about, question, advised, pursued, made⟩ :=
    retry.fixOne_eq attempt found
  have answered : tried.advice = advice tried.question := by
    rw [← steady.advises tried.question run.state, advised]
  rw [live, answered, steady.stays_on] at pursued made
  obtain ⟨same, alive⟩ := steady.pursue (advice tried.question) asked reference
  have foreseen : tried = retry.foresee advice reference attempt position entry := by
    cases tried
    simp only at here about question answered pursued same
    subst here about question
    unfold foresee
    rw [answered, pursued, Bool.or_self, same]
  rw [made, ← foreseen]
  exact ⟨alive, rfl⟩

section Reached

variable (journal : Journal) (state reference : σ)

/-- Every try that is made was foreseen, and nothing is cancelled. -/
theorem reached_foreseen (made : Nat) :
    (retry.reached journal false state made).cancelled = false ∧
      ∀ tried ∈ (retry.reached journal false state made).tries,
        tried = retry.foresee advice reference tried.question.attempt tried.position
          tried.entry := by
  refine retry.reached_induction journal false state
    (P := fun run => run.cancelled = false ∧ ∀ tried ∈ run.tries,
      tried = retry.foresee advice reference tried.question.attempt tried.position
        tried.entry) ⟨rfl, by simp⟩ ?_ ?_ made
  · rintro attempt run ⟨live, foreseen⟩
    refine ⟨?_, foreseen⟩
    change (run.cancelled || retry.interrupts attempt run.state) = false
    rw [live, steady.quiet]
    rfl
  · rintro attempt position entry run ⟨live, foreseen⟩ - found -
    obtain ⟨alive, tries⟩ := steady.fixOne reference attempt live found
    refine ⟨alive, ?_⟩
    rw [tries]
    intro tried member
    rcases List.mem_append.mp member with before | last
    · exact foreseen tried before
    · rw [List.mem_singleton.mp last]
      rfl

variable {journal}

theorem triesAt_of_settled {made position : Nat}
    (settled : position ∉ (retry.reached journal false state made).journal.failing) :
    triesAt position (retry.reached journal false state (made + 1)).tries =
      triesAt position (retry.reached journal false state made).tries := by
  obtain ⟨live, -⟩ := steady.reached_foreseen journal state state made
  cases unfinished : (retry.reached journal false state made).journal.isSuccess with
  | true => rw [retry.reached_succ_of_isSuccess journal false state unfinished]
  | false =>
      rw [retry.reached_succ journal false state unfinished live]
      obtain ⟨round, tries, ⟨cut, split, -⟩, -⟩ := retry.round_tries (made + 1)
        (retry.reached journal false state made)
      rw [split] at settled
      rw [tries, triesAt_append,
        triesAt_eq_nil fun member => settled (List.mem_append_left cut member),
        List.append_nil]

theorem triesAt_of_failing (counted : journal.Counted) {made position : Nat}
    {entry : Entry}
    (found : (retry.reached journal false state made).journal.entries[position]? =
      some entry)
    (failed : entry.failed = true) :
    triesAt position (retry.reached journal false state (made + 1)).tries =
      triesAt position (retry.reached journal false state made).tries ++
        [retry.foresee advice reference (made + 1) position entry] := by
  obtain ⟨live, -⟩ := steady.reached_foreseen journal state state made
  obtain ⟨alive, foreseen⟩ := steady.reached_foreseen journal state reference (made + 1)
  have unfinished :
      (retry.reached journal false state made).journal.isSuccess = false := by
    have kept := retry.counted_reached journal false state counted made
    apply eq_false_of_ne_true
    intro success
    have clear := kept.isSuccess_iff.mp success entry (List.mem_of_getElem? found)
    rw [Entry.failed_eq_false_iff.mpr clear] at failed
    cases failed
  rw [retry.reached_succ journal false state unfinished live] at alive foreseen ⊢
  obtain ⟨round, tries, ⟨cut, split, short⟩, asked⟩ := retry.round_tries (made + 1)
    (retry.reached journal false state made)
  -- The attempt is not cut short, so the position has its turn in it.
  have whole : cut = [] := by
    by_contra some
    rw [short some] at alive
    cases alive
  rw [whole, List.append_nil] at split
  have turn : position ∈ round.map (·.position) := by
    rw [← split]
    exact Journal.mem_failing.mpr ⟨entry, found, failed⟩
  obtain ⟨tried, member, here⟩ := List.mem_map.mp turn
  obtain ⟨stands, question⟩ := asked tried member
  rw [here, found, Option.some.injEq] at stands
  have expected := foreseen tried (by rw [tries]; exact List.mem_append_right _ member)
  rw [here, ← stands, question] at expected
  rw [tries, triesAt_append, triesAt_eq_singleton (split ▸ Journal.nodup_failing _)
    member here, expected]
  rfl

end Reached

/-! ## Two runs -/

/--
After as many attempts, two runs have made the same tries about positions that held
the same entry, and hold the same entry there.
-/
theorem agree {first second : Journal} (counted : first.Counted)
    (countedToo : second.Counted) {here there : Nat}
    (same : first.entries[here]? = second.entries[there]?) (state other : σ)
    (made : Nat) :
    triesAt here (retry.reached first false state made).tries =
        (triesAt there (retry.reached second false other made).tries).map (.moved here) ∧
      (retry.reached first false state made).journal.entries[here]? =
        (retry.reached second false other made).journal.entries[there]? := by
  induction made with
  | zero => exact ⟨rfl, same⟩
  | succ made ih =>
      obtain ⟨tries, entries⟩ := ih
      have next : triesAt here (retry.reached first false state (made + 1)).tries =
          (triesAt there (retry.reached second false other (made + 1)).tries).map
            (.moved here) := by
        by_cases fails : here ∈ (retry.reached first false state made).journal.failing
        · obtain ⟨entry, found, failed⟩ := Journal.mem_failing.mp fails
          rw [steady.triesAt_of_failing state state counted found failed, tries,
            steady.triesAt_of_failing other state countedToo (entries ▸ found) failed,
            List.map_append]
          rfl
        · have settled : there ∉
              (retry.reached second false other made).journal.failing := by
            rwa [Journal.mem_failing, ← entries, ← Journal.mem_failing]
          rw [steady.triesAt_of_settled state fails,
            steady.triesAt_of_settled other settled, tries]
      exact ⟨next, retry.entries_agree same state other next⟩

end Steady

end Retry

end PlanGuard
