import PlanGuard.Proofs.Sandbox.Watch

/-!
# How a watch comes to its end

No task holds up the other.  A guard that has seen a violation records it and kills the
group in its next two steps, and a waiter whose child has ended has told its answer after six
steps at most, whatever comes between.
-/

namespace PlanGuard.Sandbox

namespace Watch

/-! ## What the steps of one task leave alone -/

@[simp] theorem violation_notice (watch : Watch) (seen : Option Failure) :
    (watch.notice seen).violation = watch.violation := by
  unfold notice
  split <;> rfl

@[simp] theorem outcome_notice (watch : Watch) (seen : Option Failure) :
    (watch.notice seen).outcome = watch.outcome := by
  unfold notice
  split <;> rfl

@[simp] theorem waiter_notice (watch : Watch) (seen : Option Failure) :
    (watch.notice seen).waiter = watch.waiter := by
  unfold notice
  split <;> rfl

@[simp] theorem outcome_record (watch : Watch) (violation : Failure) :
    (watch.record violation).outcome = watch.outcome := by
  unfold record
  split <;> rfl

@[simp] theorem waiter_record (watch : Watch) (violation : Failure) :
    (watch.record violation).waiter = watch.waiter := by
  unfold record
  split <;> rfl

@[simp] theorem outcome_guardStep (watch : Watch) : watch.guardStep.outcome = watch.outcome := by
  unfold guardStep
  split <;> simp

@[simp] theorem waiter_guardStep (watch : Watch) : watch.guardStep.waiter = watch.waiter := by
  unfold guardStep
  split <;> simp

/-- What the waiter spares in a watch: all that is the guard's, but that it may stop it. -/
structure Spares (watch next : Watch) : Prop where
  violation : next.violation = watch.violation
  outcome : next.outcome = watch.outcome
  guard : next.guard = watch.guard ∨ next.guard = watch.guard.stop

theorem reap_spares (watch : Watch) (result : Except String Ending → Except Failure Ending) :
    watch.Spares (watch.reap result) := by
  unfold reap
  split
  next => exact ⟨rfl, rfl, .inl rfl⟩
  next => exact ⟨rfl, rfl, .inl rfl⟩

theorem waiterStep_spares (watch : Watch) (heeding : Bool) :
    watch.Spares (watch.waiterStep heeding) := by
  unfold waiterStep
  cases watch.waiter with
  | waiting =>
      dsimp only
      split
      next => exact ⟨rfl, rfl, .inl rfl⟩
      next => exact watch.reap_spares _
  | reaping => exact watch.reap_spares _
  | swept => exact ⟨rfl, rfl, .inr rfl⟩
  | _ => exact ⟨rfl, rfl, .inl rfl⟩

/-! ## The first violation stays -/

theorem violation_guardStep {watch : Watch} {violation : Failure}
    (recorded : watch.violation = some violation) :
    watch.guardStep.violation = some violation := by
  unfold guardStep
  cases watch.guard with
  | noticed => simp only [record, recorded]
  | _ => exact recorded

theorem violation_step {watch : Watch} {violation : Failure}
    (recorded : watch.violation = some violation) (event : Event) :
    (watch.step event).violation = some violation := by
  cases event with
  | ends => exact recorded
  | cancels => exact recorded
  | expires => exact (watch.violation_notice _).trans recorded
  | samples => exact (watch.violation_notice _).trans recorded
  | guard => exact violation_guardStep recorded
  | waiter heeding => exact (watch.waiterStep_spares heeding).violation.trans recorded

theorem violation_foldl_step {watch : Watch} {violation : Failure}
    (recorded : watch.violation = some violation) (events : List Event) :
    (events.foldl step watch).violation = some violation := by
  induction events generalizing watch with
  | nil => exact recorded
  | cons event rest ih => exact ih (violation_step recorded event)

end Watch

/-! ## Steps that are left -/

def Event.turn? : Event → Option Role
  | .guard => some .guard
  | .waiter _ => some .waiter
  | _ => none

def turns (role : Role) (events : List Event) : Nat :=
  events.countP (·.turn? = some role)

/-- The most steps until a waiter that has its child's end has told it. -/
def Waiter.left : Waiter → Nat
  | .waiting => 6
  | .heeding => 5
  | .reaping => 4
  | .reaped _ => 3
  | .swept _ => 2
  | .stopped _ => 1
  | .returned _ => 0

theorem Waiter.left_le (waiter : Waiter) : waiter.left ≤ 6 := by
  cases waiter <;> simp [left]

/-- A violation is recorded and acted upon in so many more steps of the guard. -/
def Guard.Owes (violation : Failure) (recorded : Option Failure) : Guard → Nat → Prop
  | .watching, _ => False
  | .noticed seen, left => seen = violation ∧ recorded = none ∧ left = 2
  | .recorded, left => recorded = some violation ∧ left = 1
  | .finished, left => recorded = some violation ∧ left = 0

theorem Guard.Owes.stop {violation : Failure} {recorded : Option Failure} {guard : Guard}
    {left : Nat} (owes : guard.Owes violation recorded left) :
    guard.stop.Owes violation recorded left := by
  cases guard with
  | watching => exact owes.elim
  | _ => exact owes

namespace Watch

theorem outcome_step {watch : Watch} (there : watch.outcome.isSome = true) (event : Event) :
    (watch.step event).outcome.isSome = true := by
  cases event with
  | ends outcome =>
      obtain ⟨first, here⟩ := Option.isSome_iff_exists.mp there
      simp only [step, here, Option.some_or, Option.isSome_some]
  | cancels => exact there
  | expires => exact watch.outcome_notice _ ▸ there
  | samples => exact watch.outcome_notice _ ▸ there
  | guard => exact watch.outcome_guardStep ▸ there
  | waiter heeding => exact (watch.waiterStep_spares heeding).outcome ▸ there

theorem outcome_foldl_step {watch : Watch} (there : watch.outcome.isSome = true)
    (events : List Event) : (events.foldl step watch).outcome.isSome = true := by
  induction events generalizing watch with
  | nil => exact there
  | cons event rest ih => exact ih (outcome_step there event)

theorem left_reap {watch : Watch} (there : watch.outcome.isSome = true)
    (result : Except String Ending → Except Failure Ending) :
    (watch.reap result).waiter.left = 3 := by
  obtain ⟨outcome, here⟩ := Option.isSome_iff_exists.mp there
  simp only [reap, here, waiter_does, Waiter.left]

theorem left_waiterStep {watch : Watch} (there : watch.outcome.isSome = true) (heeding : Bool) :
    (watch.waiterStep heeding).waiter.left ≤ watch.waiter.left - 1 := by
  unfold waiterStep
  cases waiter : watch.waiter with
  | waiting =>
      dsimp only
      split
      next => exact Nat.le_refl 5
      next => exact left_reap there _ ▸ Nat.le_add_right 3 2
  | reaping => exact Nat.le_of_eq (left_reap there _)
  | returned => simp [waiter, Waiter.left]
  | _ => exact Nat.le_refl _

/-- Each step of the waiter brings it nearer to its answer, and no other event delays it. -/
theorem left_foldl_step {watch : Watch} (there : watch.outcome.isSome = true)
    (events : List Event) :
    (events.foldl step watch).waiter.left ≤ watch.waiter.left - turns .waiter events := by
  induction events generalizing watch with
  | nil => exact Nat.le_refl _
  | cons event rest ih =>
      refine Nat.le_trans (ih (outcome_step there event)) ?_
      unfold turns
      cases event with
      | waiter heeding =>
          have first : (watch.step (.waiter heeding)).waiter.left ≤ watch.waiter.left - 1 :=
            left_waiterStep there heeding
          rw [List.countP_cons_of_pos rfl]
          omega
      | ends => exact Nat.le_refl _
      | cancels => exact Nat.le_refl _
      | expires => exact watch.waiter_notice _ ▸ Nat.le_refl _
      | samples => exact watch.waiter_notice _ ▸ Nat.le_refl _
      | guard => exact watch.waiter_guardStep ▸ Nat.le_refl _

theorem owes_notice {watch : Watch} {violation : Failure} {left : Nat}
    (owes : watch.guard.Owes violation watch.violation left) (seen : Option Failure) :
    (watch.notice seen).guard.Owes violation (watch.notice seen).violation left := by
  unfold notice
  split
  next _ watching =>
    rw [watching] at owes
    exact owes.elim
  next => exact owes

theorem owes_guardStep {watch : Watch} {violation : Failure} {left : Nat}
    (owes : watch.guard.Owes violation watch.violation left) :
    watch.guardStep.guard.Owes violation watch.guardStep.violation (left - 1) := by
  unfold guardStep
  cases guard : watch.guard with
  | watching =>
      rw [guard] at owes
      exact owes.elim
  | noticed =>
      rw [guard] at owes
      obtain ⟨rfl, unrecorded, rfl⟩ := owes
      simp only [record, unrecorded]
      exact ⟨rfl, rfl⟩
  | recorded =>
      rw [guard] at owes
      obtain ⟨inCell, rfl⟩ := owes
      exact ⟨inCell, rfl⟩
  | finished =>
      rw [guard] at owes
      obtain ⟨inCell, rfl⟩ := owes
      rw [guard]
      exact ⟨inCell, rfl⟩

theorem owes_waiterStep {watch : Watch} {violation : Failure} {left : Nat}
    (owes : watch.guard.Owes violation watch.violation left) (heeding : Bool) :
    (watch.waiterStep heeding).guard.Owes violation (watch.waiterStep heeding).violation left := by
  have spares := watch.waiterStep_spares heeding
  rw [spares.violation]
  obtain same | stopped := spares.guard
  · rwa [same]
  · rw [stopped]
    exact owes.stop

/-- What a guard owes it does in its own steps, and no other event takes it off it. -/
theorem owes_foldl_step {watch : Watch} {violation : Failure} {left : Nat}
    (owes : watch.guard.Owes violation watch.violation left) (events : List Event) :
    (events.foldl step watch).guard.Owes violation (events.foldl step watch).violation
      (left - turns .guard events) := by
  induction events generalizing watch left with
  | nil => exact owes
  | cons event rest ih =>
      rw [List.foldl_cons, turns]
      cases event with
      | guard =>
          rw [List.countP_cons_of_pos rfl, Nat.add_comm, ← Nat.sub_sub]
          exact ih (owes_guardStep owes)
      | ends => exact ih owes
      | cancels => exact ih owes
      | expires => exact ih (owes_notice owes _)
      | samples => exact ih (owes_notice owes _)
      | waiter heeding => exact ih (owes_waiterStep owes heeding)

section Runs

variable {limits : Limits} {limit : Duration} {events : List Event}

theorem after_append (limits : Limits) (limit : Duration) (events later : List Event) :
    after limits limit (events ++ later) = later.foldl step (after limits limit events) :=
  List.foldl_append

theorem outcome_after {outcome : Except String Ending} (came : .ends outcome ∈ events) :
    (after limits limit events).outcome.isSome = true := by
  obtain ⟨earlier, later, rfl⟩ := List.append_of_mem came
  rw [after_append, List.foldl_cons]
  exact outcome_foldl_step (Option.isSome_or.trans (Bool.or_true _)) later

/-- A waiter whose child has ended tells its answer, if it goes on. -/
theorem isSome_answer?_after {outcome : Except String Ending} (came : .ends outcome ∈ events)
    {later : List Event} (enough : 6 ≤ turns .waiter later) :
    (after limits limit (events ++ later)).answer?.isSome = true := by
  rw [after_append]
  have none : (later.foldl step (after limits limit events)).waiter.left = 0 := by
    have there : (after limits limit events).outcome.isSome = true := outcome_after came
    have bound := left_foldl_step there later
    have most := (after limits limit events).waiter.left_le
    omega
  unfold answer?
  cases told : (later.foldl step (after limits limit events)).waiter with
  | returned => rfl
  | _ =>
      rw [told] at none
      cases none

theorem owes_step_of_violation? {watch : Watch} (kept : Kept limits limit events watch)
    (watching : watch.guard = .watching) {event : Event} {violation : Failure}
    (breach : event.violation? limits limit = some violation) :
    (watch.step event).guard.Owes violation (watch.step event).violation 2 := by
  have noticed : watch.step event = watch.notice (event.violation? limits limit) := by
    cases event with
    | expires => rw [step, Event.violation?, kept.sameLimit]
    | samples usage => rw [step, Event.violation?, kept.sameLimits]
    | _ => cases breach
  have did := kept.guard
  rw [watching] at did
  rw [noticed, breach]
  simp only [notice, watching]
  exact ⟨rfl, did.1, rfl⟩

/-- A guard that sees a violation while it watches records it and kills the group. -/
theorem doneBy_guard_after (watching : (after limits limit events).guard = .watching)
    {event : Event} {violation : Failure}
    (breach : event.violation? limits limit = some violation) {later : List Event}
    (enough : 2 ≤ turns .guard later) :
    doneBy .guard (after limits limit (events ++ event :: later)).deeds =
      [.recorded violation, .killedGroup .violation] := by
  have done := (kept_after limits limit (events ++ event :: later)).guard
  rw [after_append, List.foldl_cons] at done ⊢
  have seen := owes_step_of_violation? (kept_after limits limit events) watching breach
  have owes := owes_foldl_step seen later
  rw [Nat.sub_eq_zero_of_le enough] at owes
  cases guard : (later.foldl step ((after limits limit events).step event)).guard with
  | finished =>
      rw [guard] at owes done
      obtain ⟨empty, -⟩ | ⟨other, -, inCell, both⟩ := done
      · exact nomatch empty.symm.trans owes.1
      · obtain rfl := Option.some.inj (inCell.symm.trans owes.1)
        exact both
  | watching =>
      rw [guard] at owes
      exact owes.elim
  | noticed =>
      rw [guard] at owes
      exact nomatch owes.2.2
  | recorded =>
      rw [guard] at owes
      exact nomatch owes.2

end Runs

end Watch

/--
A watch always tells why a child has ended, whatever comes about and in whatever order the two
tasks take their steps.  At most one violation is recorded, one that came about; it is recorded
before the group is killed for it, and once recorded it stays.  What the waiter tells is the
violation, if one is recorded at any time before, hence also if one is recorded before the
guard is stopped, or if the guard has killed the group.  Else it tells that the caller
cancelled, if it has heeded that before it waited for the child, and else what waiting has
given.  In any case the whole group was killed after the child was waited for.  A waiter whose
child has ended does tell something, and a guard that sees a violation does record it and kill
the group, if they are given the steps for it.
-/
theorem watch_answers (limits : Limits) (limit : Duration) (events : List Event) :
    let watch := Watch.after limits limit events
    ((watch.violation = none ∧ doneBy .guard watch.deeds = []) ∨
      ∃ violation, (∃ event ∈ events, event.violation? limits limit = some violation) ∧
        watch.violation = some violation ∧
        (doneBy .guard watch.deeds = [.recorded violation] ∨
          doneBy .guard watch.deeds = [.recorded violation, .killedGroup .violation])) ∧
    (∀ violation later, watch.violation = some violation →
      (Watch.after limits limit (events ++ later)).violation = some violation) ∧
    (∀ answer, watch.answer? = some answer →
      ∃ before later outcome, watch.deeds = before ++ .returned answer :: later ∧
        doneBy .waiter later = [] ∧ .ends outcome ∈ events ∧
        (∀ violation, .recorded violation ∈ before → answer = .error violation) ∧
        (.killedGroup .violation ∈ before → ∃ violation, .recorded violation ∈ before) ∧
        ((doneBy .waiter before = [.waited outcome, .killedGroup .remains, .stoppedGuard] ∧
            ((∀ violation, .recorded violation ∉ before) → answer = outcome.mapError .io)) ∨
          (doneBy .waiter before = [.heeded, .killedGroup .cancellation, .waited outcome,
              .killedGroup .remains, .stoppedGuard] ∧ .cancels ∈ events ∧
            ((∀ violation, .recorded violation ∉ before) → answer = .error .cancelled)))) ∧
    (∀ outcome later, .ends outcome ∈ events → 6 ≤ turns .waiter later →
      (Watch.after limits limit (events ++ later)).answer?.isSome = true) ∧
    ∀ event violation later, watch.guard = .watching →
      event.violation? limits limit = some violation → 2 ≤ turns .guard later →
      doneBy .guard (Watch.after limits limit (events ++ event :: later)).deeds =
        [.recorded violation, .killedGroup .violation] := by
  intro watch
  have kept := Watch.kept_after limits limit events
  refine ⟨kept.guard.shape, ?_, ?_, ?_, ?_⟩
  · intro violation later recorded
    rw [Watch.after_append]
    exact Watch.violation_foldl_step recorded later
  · intro answer answered
    obtain ⟨before, later, done, tells, nothing⟩ := Watch.did_of_answer? kept.waiter answered
    have did := kept.guard
    rw [done] at did
    obtain ⟨result, own, reaping, course, told⟩ := tells.course
    cases reaping with
    | ended came =>
        exact ⟨before, later, _, done, nothing, came, tells.recorded, did.exists_recorded,
          .inl ⟨course, told⟩⟩
    | cancelled asked came =>
        exact ⟨before, later, _, done, nothing, came, tells.recorded, did.exists_recorded,
          .inr ⟨course, asked, told⟩⟩
  · intro outcome later came enough
    exact Watch.isSome_answer?_after came enough
  · intro event violation later watching breach enough
    exact Watch.doneBy_guard_after watching breach enough

/-- The time of a child is over, the caller cancels, and a signal of either ends the child. -/
def overrun : List Event :=
  [.expires, .cancels, .guard, .waiter true, .waiter true, .guard, .ends (.ok (.killed 9))] ++
    List.replicate 4 (.waiter false)

theorem overrun_answers :
    let watch := Watch.after {} (.ofSeconds 1) overrun
    watch.answer? = some (.error (.timeout (.ofSeconds 1))) ∧
      doneBy .guard watch.deeds =
        [.recorded (.timeout (.ofSeconds 1)), .killedGroup .violation] ∧
      ∃ before later, doneBy .waiter later = [] ∧
        watch.deeds = before ++ .returned (.error (.timeout (.ofSeconds 1))) :: later := by
  intro watch
  have answered : watch.answer? = some (.error (.timeout (.ofSeconds 1))) := rfl
  obtain ⟨-, -, answers, -⟩ := watch_answers {} (.ofSeconds 1) overrun
  obtain ⟨before, later, -, done, nothing, -⟩ := answers _ answered
  obtain ⟨-, -, -, -, acts⟩ := watch_answers {} (.ofSeconds 1) []
  have acted := acts .expires (.timeout (.ofSeconds 1)) overrun.tail rfl rfl (by decide)
  exact ⟨answered, acted, before, later, nothing, done⟩

end PlanGuard.Sandbox
