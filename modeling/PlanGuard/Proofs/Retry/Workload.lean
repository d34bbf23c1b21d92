import PlanGuard.Proofs.Retry.Attempts
import Mathlib.Algebra.GroupWithZero.Nat
import Mathlib.Algebra.Group.Action.Defs
import Mathlib.Algebra.BigOperators.Group.Finset.Basic
import Mathlib.Algebra.Order.BigOperators.Group.Finset

/-!
# How much work a retry can make

Whatever the planner proposes, an attempt asks at most once about a position, and only
about positions that failed at the start: a fix that fails makes no other entry fail,
and fixes are never fixed themselves.  `Confined` is what an attempt preserves of this.
With a limit on the commands of a plan it bounds the requests as well.
-/

namespace PlanGuard

def Event.isRequest : Event → Bool
  | .asked _ _ => false
  | .requested _ => true

theorem countP_isRequest_events (tries : List Try) :
    (tries.flatMap Try.events).countP Event.isRequest =
      (tries.map fun tried => tried.fate.exchanges.length).sum := by
  induction tries with
  | nil => rfl
  | cons tried rest ih =>
      have requests : (tried.fate.exchanges.map Event.requested).countP
          Event.isRequest = tried.fate.exchanges.length := by
        rw [List.countP_map, List.countP_eq_length]
        exact fun _ _ => rfl
      rw [List.flatMap_cons, List.countP_append, ih, List.map_cons, List.sum_cons]
      unfold Try.events
      rw [List.countP_cons, requests]
      rfl

theorem length_le_of_count_le {things kinds : List Nat} {most : Nat}
    (inside : ∀ thing ∈ things, thing ∈ kinds)
    (few : ∀ thing, things.count thing ≤ most) :
    things.length ≤ most * kinds.length := by
  have kindsFew : things.toFinset.card ≤ kinds.length :=
    calc things.toFinset.card ≤ kinds.toFinset.card :=
          Finset.card_le_card fun thing member =>
            List.mem_toFinset.mpr (inside thing (List.mem_toFinset.mp member))
      _ ≤ kinds.length := List.toFinset_card_le kinds
  calc things.length = ∑ thing ∈ things.toFinset, things.count thing :=
        (List.sum_toFinset_count_eq_length things).symm
    _ ≤ things.toFinset.card * most :=
        Finset.sum_le_card_nsmul _ _ _ fun thing _ => few thing
    _ ≤ kinds.length * most := Nat.mul_le_mul_right most kindsFew
    _ = most * kinds.length := Nat.mul_comm _ _

namespace Retry

variable {σ : Type}

/-! ## One question -/

/-- A question brings no more requests to the runner than commands are taken of a plan. -/
theorem Outcome.length_exchanges_le {retry : Retry σ} {advice : Advice} {fate : Fate}
    (outcome : retry.Outcome advice fate) (limited : 0 < retry.settings.maxCommands) :
    fate.exchanges.length ≤ retry.settings.maxCommands := by
  cases outcome with
  | unavailable => exact Nat.zero_le _
  | rejected => exact Nat.zero_le _
  | @ran plan answered nonempty permitted cancelled state =>
      have requests := retry.executor.length_exchanges_runFrom_le retry.runner false 0
        (plan.truncate retry.settings.maxCommands).commands cancelled state
      rw [Plan.commands_truncate] at requests
      unfold Fate.exchanges Executor.runPlan
      rw [Plan.commands_truncate]
      exact Nat.le_trans requests (Plan.length_kept_le limited plan)

/-! ## One attempt after another -/

structure Confined (start : Journal) (started : Nat) (run : RetryRun σ) : Prop where
  failing : ∀ position ∈ run.journal.failing, position ∈ start.failing
  about : ∀ position ∈ run.tries.map (·.position), position ∈ start.failing
  /-- At most one question about each position in each attempt. -/
  each : ∀ position, (run.tries.map (·.position)).count position ≤ started

theorem Confined.round {start : Journal} {started : Nat} {run : RetryRun σ}
    (confined : Confined start started run) (retry : Retry σ) (attempt : Nat) :
    Confined start (started + 1) (retry.round attempt run) := by
  obtain ⟨round, tries, ⟨cut, walked, -⟩, -⟩ := retry.round_tries attempt run
  have positions : (retry.round attempt run).tries.map (·.position) =
      run.tries.map (·.position) ++ round.map (·.position) := by
    rw [tries, List.map_append]
  refine ⟨?_, ?_, ?_⟩
  · intro position member
    exact confined.failing position (retry.failing_round attempt run position member)
  · intro position member
    rw [positions] at member
    rcases List.mem_append.mp member with before | now
    · exact confined.about position before
    · refine confined.failing position ?_
      rw [walked]
      exact List.mem_append_left cut now
  · intro position
    have distinct : (round.map (·.position)).Nodup := by
      have whole := Journal.nodup_failing run.journal
      rw [walked] at whole
      exact whole.of_append_left
    rw [positions, List.count_append]
    exact Nat.add_le_add (confined.each position)
      (List.nodup_iff_count_le_one.mp distinct position)

/-- What a run asks stays within the failures at the start and the attempts allowed. -/
theorem run_confined (retry : Retry σ) (journal : Journal) (cancelled : Bool) (state : σ) :
    ∃ started ≤ retry.settings.maxRetries,
      Confined journal started (retry.run journal cancelled state) := by
  have start : Confined journal 0 ({ journal, cancelled, state } : RetryRun σ) :=
    ⟨fun _ member => member, nofun, fun _ => Nat.le_refl 0⟩
  obtain ⟨started, few, confined, -⟩ := retry.run_rounds start
    (fun started run confined _ _ => confined.round retry (started + 1))
    (fun started run confined => ⟨confined.failing, confined.about, confined.each⟩)
  exact ⟨started, few, confined⟩

/-! ## The whole run -/

/-- What a run brings to the planner and the runner, for some failures at the start. -/
structure Workload (settings : RetrySettings) (failures : List Nat) (tries : List Try)
    (log : List Event) : Prop where
  noted : log = tries.flatMap Try.events
  questions : log.countP Event.isQuestion ≤ settings.maxRetries * failures.length
  /-- At most one question in each attempt about each failure, and none about the rest. -/
  each : ∀ position,
    (tries.map (·.position)).count position ≤
      if position ∈ failures then settings.maxRetries else 0
  requests : 0 < settings.maxCommands →
    log.countP Event.isRequest ≤
      settings.maxRetries * failures.length * settings.maxCommands

theorem workload_run (retry : Retry σ) (journal : Journal) (cancelled : Bool)
    (state : σ) :
    Workload retry.settings journal.failing (retry.run journal cancelled state).tries
      (retry.events journal cancelled state) := by
  obtain ⟨started, allowed, confined⟩ := retry.run_confined journal cancelled state
  obtain ⟨chronicle, -⟩ := retry.run_chronicle journal cancelled state
  have few (position : Nat) :=
    Nat.le_trans (confined.each position) allowed
  have total : (retry.run journal cancelled state).tries.length ≤
      retry.settings.maxRetries * journal.failing.length := by
    rw [← List.length_map (f := fun tried : Try => tried.position)]
    exact length_le_of_count_le confined.about few
  refine ⟨retry.events_eq journal cancelled state, ?_, ?_, ?_⟩
  · rw [events_eq, countP_isQuestion_events]
    exact total
  · intro position
    split
    next => exact few position
    next sound =>
      rw [List.count_eq_zero_of_not_mem fun member => sound (confined.about position member)]
  · intro limited
    rw [events_eq, countP_isRequest_events]
    have each : ∀ count ∈ (retry.run journal cancelled state).tries.map
        (fun tried => tried.fate.exchanges.length), count ≤ retry.settings.maxCommands := by
      intro count member
      obtain ⟨tried, among, rfl⟩ := List.mem_map.mp member
      exact (chronicle.outcome tried among).length_exchanges_le limited
    have sum := List.sum_le_card_nsmul _ _ each
    rw [List.length_map, smul_eq_mul] at sum
    exact Nat.le_trans sum (Nat.mul_le_mul_right _ total)

end Retry

end PlanGuard
