import PlanGuard.Proofs.Retry.Accounting

/-!
# The attempts of a retry

A walk through failing positions adds a try for each of them, about the entry as it
was before the walk.  `reached` is the run as its first attempts leave it; a run is
what its attempts have reached, and each starts where the one before has led to.
What fails after some attempts has failed all along.
-/

namespace PlanGuard

namespace Retry

variable {σ : Type}

/-! ## One attempt -/

/--
A walk adds a try for each of its positions, in order, until it is cancelled.  Each
is about the entry as it was before the walk, as the others are about others.
-/
theorem fixEach_round (retry : Retry σ) (attempt : Nat) (positions : List Nat)
    (run : RetryRun σ) (distinct : positions.Nodup)
    (inside : ∀ position ∈ positions, ∃ entry,
      run.journal.entries[position]? = some entry) :
    ∃ round : List Try,
      (retry.fixEach attempt positions run).tries = run.tries ++ round ∧
        (∃ cut, positions = round.map (·.position) ++ cut ∧
          (cut ≠ [] → (retry.fixEach attempt positions run).cancelled = true)) ∧
        ∀ tried ∈ round,
          run.journal.entries[tried.position]? = some tried.entry ∧
            tried.question = tried.entry.question attempt := by
  induction positions generalizing run with
  | nil =>
      refine ⟨[], (List.append_nil _).symm, ⟨[], rfl, fun some => absurd rfl some⟩, ?_⟩
      intro tried impossible
      cases impossible
  | cons position rest ih =>
      unfold fixEach
      cases cancelled : run.cancelled with
      | true =>
          rw [if_pos rfl]
          refine ⟨[], (List.append_nil _).symm, ⟨_, rfl, fun _ => cancelled⟩, ?_⟩
          intro tried impossible
          cases impossible
      | false =>
          rw [if_neg Bool.false_ne_true]
          obtain ⟨fresh, distinctRest⟩ := List.nodup_cons.mp distinct
          obtain ⟨entry, found⟩ := inside position List.mem_cons_self
          obtain ⟨tried, here, about, question, -, -, tries, -⟩ :=
            retry.fixOne_of_found attempt found
          -- The rest of the positions hold the entries that they held before.
          have apart {other : Nat} (member : other ∈ rest) :
              (retry.fixOne attempt position run).journal.entries[other]? =
                run.journal.entries[other]? :=
            retry.getElem?_fixOne_of_ne attempt run fun same => fresh (same ▸ member)
          obtain ⟨round, later, ⟨cut, split, short⟩, asked⟩ := ih _ distinctRest
            fun other member => by
              rw [apart member]
              exact inside other (List.mem_cons_of_mem position member)
          refine ⟨tried :: round, ?_, ⟨cut, ?_, short⟩, ?_⟩
          · rw [later, tries, List.append_assoc]
            rfl
          · rw [List.map_cons, here, List.cons_append, ← split]
          · intro other member
            rcases List.mem_cons.mp member with rfl | among
            · rw [here, about]
              exact ⟨found, question⟩
            · have walked : other.position ∈ rest := by
                rw [split]
                exact List.mem_append_left cut (List.mem_map_of_mem among)
              rw [← apart walked]
              exact asked other among

/--
An attempt adds a try for each failing position, in order, until it is cancelled.
Each is about the entry as the attempt has found it.
-/
theorem round_tries (retry : Retry σ) (attempt : Nat) (run : RetryRun σ) :
    ∃ round : List Try,
      (retry.round attempt run).tries = run.tries ++ round ∧
        (∃ cut, run.journal.failing = round.map (·.position) ++ cut ∧
          (cut ≠ [] → (retry.round attempt run).cancelled = true)) ∧
        ∀ tried ∈ round,
          run.journal.entries[tried.position]? = some tried.entry ∧
            tried.question = tried.entry.question attempt :=
  retry.fixEach_round attempt run.journal.failing (retry.startAttempt attempt run)
    (Journal.nodup_failing _) fun _ member =>
      (Journal.mem_failing.mp member).imp fun _ standing => standing.1

/-! ## The attempts of a run -/

/-- One more attempt is made where those before it have led to, unless they ended. -/
theorem attempts_snoc (retry : Retry σ) (left attempt : Nat) (run : RetryRun σ) :
    retry.attempts (left + 1) attempt run =
      let made := retry.attempts left attempt run
      if made.journal.isSuccess || made.cancelled then made
      else retry.round (attempt + left) made := by
  induction left generalizing attempt run with
  | zero => rfl
  | succ left ih =>
      cases ended : run.journal.isSuccess || run.cancelled with
      | true =>
          have halted := Bool.or_eq_true_iff.mp ended
          rw [retry.attempts_of_ended _ _ halted, retry.attempts_of_ended _ _ halted]
          dsimp only
          rw [if_pos ended]
      | false =>
          have onward (more : Nat) : retry.attempts (more + 1) attempt run =
              retry.attempts more (attempt + 1) (retry.round attempt run) := by
            rw [Retry.attempts, if_neg (by rw [ended]; exact Bool.false_ne_true)]
            rfl
          rw [onward, onward, ih, Nat.add_right_comm, Nat.add_assoc]

def reached (retry : Retry σ) (journal : Journal) (cancelled : Bool) (state : σ)
    (made : Nat) : RetryRun σ :=
  retry.attempts made 1 { journal, cancelled, state }

def allowed (retry : Retry σ) : Nat :=
  if retry.settings.isActive then retry.settings.maxRetries else 0

section Reached

variable (retry : Retry σ) (journal : Journal) (cancelled : Bool) (state : σ)

/-- What starts and questions preserve holds after any number of attempts. -/
theorem reached_induction {P : RetryRun σ → Prop}
    (start : P { journal, cancelled, state })
    (starts : ∀ attempt run, P run → P (retry.startAttempt attempt run))
    (fixes : ∀ attempt position entry run, P run → run.cancelled = false →
      run.journal.entries[position]? = some entry → entry.failed = true →
      P (retry.fixOne attempt position run))
    (made : Nat) : P (retry.reached journal cancelled state made) := by
  induction made with
  | zero => exact start
  | succ made ih =>
      unfold reached at *
      rw [attempts_snoc]
      dsimp only
      split
      next => exact ih
      next => exact retry.round_induction starts fixes _ _ ih

/-- After any number of attempts the tries are a chronicle, and are written down. -/
theorem reached_chronicle (made : Nat) :
    retry.Chronicle journal (retry.reached journal cancelled state made).tries ∧
      (retry.reached journal cancelled state made).journal =
        journal.replay (retry.reached journal cancelled state made).tries := by
  refine retry.reached_induction journal cancelled state
    (P := fun run => retry.Chronicle journal run.tries ∧
      run.journal = journal.replay run.tries)
    ⟨.nil, rfl⟩ (fun _ _ holds => holds) ?_ made
  rintro attempt position entry run ⟨earlier, written⟩ - found failed
  exact earlier.fixOne written attempt found failed

theorem length_reached (made : Nat) :
    (retry.reached journal cancelled state made).journal.entries.length =
      journal.entries.length := by
  obtain ⟨chronicle, written⟩ := retry.reached_chronicle journal cancelled state made
  rw [written]
  exact Journal.length_replay journal chronicle.counted

theorem counted_reached (counted : journal.Counted) (made : Nat) :
    (retry.reached journal cancelled state made).journal.Counted := by
  rw [(retry.reached_chronicle journal cancelled state made).2]
  exact counted.replay _

/-- A run has gone on after each of its attempts but the last. -/
def Goes (made : Nat) : Prop :=
  ∀ earlier < made,
    (retry.reached journal cancelled state earlier).journal.isSuccess = false ∧
      (retry.reached journal cancelled state earlier).cancelled = false

/-- Once nothing fails any more, nothing more happens. -/
theorem reached_succ_of_isSuccess {made : Nat}
    (finished :
      (retry.reached journal cancelled state made).journal.isSuccess = true) :
    retry.reached journal cancelled state (made + 1) =
      retry.reached journal cancelled state made := by
  unfold reached at *
  rw [attempts_snoc]
  dsimp only
  rw [finished]
  rfl

/-- Where a run has gone on, the next attempt starts from what has been reached. -/
theorem reached_succ {made : Nat}
    (unfinished :
      (retry.reached journal cancelled state made).journal.isSuccess = false)
    (live : (retry.reached journal cancelled state made).cancelled = false) :
    retry.reached journal cancelled state (made + 1) =
      retry.round (made + 1) (retry.reached journal cancelled state made) := by
  unfold reached at *
  rw [attempts_snoc]
  dsimp only
  rw [unfinished, live, Nat.add_comm 1]
  rfl

theorem attempts_reached_succ (made : Nat) :
    (retry.reached journal cancelled state (made + 1)).report.attempts =
      let before := retry.reached journal cancelled state made
      if before.journal.isSuccess || before.cancelled then before.report.attempts
      else made + 1 := by
  unfold reached
  rw [attempts_snoc]
  dsimp only
  split
  next => rfl
  next => exact (retry.attempts_fixEach _ _ _).trans (Nat.add_comm 1 made)

theorem attempts_reached_le (made : Nat) :
    (retry.reached journal cancelled state made).report.attempts ≤ made := by
  induction made with
  | zero => exact Nat.le_refl 0
  | succ made ih =>
      rw [attempts_reached_succ]
      dsimp only
      split
      next => exact Nat.le_succ_of_le ih
      next => exact Nat.le_refl _

theorem run_eq_reached :
    retry.run journal cancelled state =
      let last := retry.reached journal cancelled state retry.allowed
      { last with report := { last.report with remaining := last.journal.failed } } := by
  unfold run allowed
  cases retry.settings.isActive <;> rfl

theorem run_reached :
    let done := retry.run journal cancelled state
    let last := retry.reached journal cancelled state done.report.attempts
    retry.Goes journal cancelled state done.report.attempts ∧
      done.journal = last.journal ∧ done.tries = last.tries ∧
      done.cancelled = last.cancelled := by
  have counted : ∃ made, retry.Goes journal cancelled state made ∧
      (retry.run journal cancelled state).report.attempts = made ∧
      (retry.run journal cancelled state).journal =
        (retry.reached journal cancelled state made).journal ∧
      (retry.run journal cancelled state).tries =
        (retry.reached journal cancelled state made).tries ∧
      (retry.run journal cancelled state).cancelled =
        (retry.reached journal cancelled state made).cancelled := by
    have fresh : retry.Goes journal cancelled state 0 :=
      fun _ less => absurd less (Nat.not_lt_zero _)
    unfold run
    cases active : retry.settings.isActive with
    | false => exact ⟨0, fresh, rfl, rfl, rfl, rfl⟩
    | true =>
        obtain ⟨made, -, ⟨goes, number, same⟩, -⟩ := retry.attempts_rounds
          (I := fun made run => retry.Goes journal cancelled state made ∧
            run.report.attempts = made ∧ run = retry.reached journal cancelled state made)
          (by
            rintro made run ⟨goes, number, rfl⟩ unfinished live
            refine ⟨?_, retry.attempts_fixEach _ _ _,
              (retry.reached_succ journal cancelled state unfinished live).symm⟩
            intro earlier less
            rcases Nat.lt_succ_iff_lt_or_eq.mp less with before | rfl
            · exact goes earlier before
            · exact ⟨unfinished, live⟩)
          retry.settings.maxRetries 0 { journal, cancelled, state } ⟨fresh, rfl, rfl⟩
        simp only [Nat.zero_add] at goes number same
        refine ⟨made, goes, number, ?_⟩
        rw [← same]
        exact ⟨rfl, rfl, rfl⟩
  obtain ⟨made, goes, number, left⟩ := counted
  dsimp only
  rw [number]
  exact ⟨goes, left⟩

variable {retry journal cancelled state}

theorem Goes.of_le {earlier made : Nat} (goes : retry.Goes journal cancelled state made)
    (before : earlier ≤ made) : retry.Goes journal cancelled state earlier :=
  fun other less => goes other (Nat.lt_of_lt_of_le less before)

/-- No question makes an entry fail that did not. -/
theorem failing_round (retry : Retry σ) (attempt : Nat) (run : RetryRun σ) :
    ∀ position ∈ (retry.round attempt run).journal.failing,
      position ∈ run.journal.failing := by
  refine retry.round_induction
    (P := fun later => ∀ position ∈ later.journal.failing, position ∈ run.journal.failing)
    (fun _ _ holds => holds) ?_ attempt run (fun _ member => member)
  intro attempt asked entry later holds _ found failed position member
  apply holds
  by_cases here : position = asked
  · exact Journal.mem_failing.mpr ⟨entry, here ▸ found, failed⟩
  · obtain ⟨standing, there, fails⟩ := Journal.mem_failing.mp member
    rw [getElem?_fixOne_of_ne retry attempt later here] at there
    exact Journal.mem_failing.mpr ⟨standing, there, fails⟩

/-- What fails after some attempts has failed all along. -/
theorem Goes.failing {earlier made : Nat} (goes : retry.Goes journal cancelled state made)
    (before : earlier ≤ made) :
    ∀ position ∈ (retry.reached journal cancelled state made).journal.failing,
      position ∈ (retry.reached journal cancelled state earlier).journal.failing := by
  induction before with
  | refl => exact fun _ member => member
  | @step made before ih =>
      intro position member
      obtain ⟨unfinished, live⟩ := goes made (Nat.lt_succ_self made)
      rw [retry.reached_succ journal cancelled state unfinished live] at member
      exact ih (goes.of_le (Nat.le_succ made)) position
        (retry.failing_round _ _ position member)

end Reached

end Retry

end PlanGuard
