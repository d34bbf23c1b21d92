import PlanGuard.Sandbox.Watch

/-!
# What a watch tells

The guard and the waiter of a watch share one cell, in which the guard records why it is
about to kill the child.  Neither of them waits for the other, so that their steps can stand
in any order, and so can the end of the child, a cancellation and the limits.  Each task by
itself does its deeds in one order: `Guard.Did` and `Waiter.Did` tell, for every point that
it can be at, all that it has done.  A step keeps both, so they hold after every list of
events, and from what the waiter did follows what it told.
-/

namespace PlanGuard.Sandbox

/-! ## Deeds -/

inductive Role where
  | guard
  | waiter
  deriving DecidableEq

def Deed.role : Deed → Role
  | .recorded _ => .guard
  | .killedGroup .violation => .guard
  | _ => .waiter

def doneBy (role : Role) (deeds : List Deed) : List Deed :=
  deeds.filter (·.role = role)

section DoneBy

variable {role : Role} {deed : Deed} {deeds : List Deed}

theorem doneBy_concat {done : List Deed} (did : doneBy role deeds = done)
    (own : deed.role = role) : doneBy role (deeds ++ [deed]) = done ++ [deed] := by
  simp [doneBy, own, ← did]

theorem doneBy_concat_of_ne (other : deed.role ≠ role) :
    doneBy role (deeds ++ [deed]) = doneBy role deeds := by
  simp [doneBy, other]

theorem mem_doneBy : deed ∈ doneBy deed.role deeds ↔ deed ∈ deeds := by
  rw [doneBy, List.mem_filter, and_iff_left (decide_eq_true rfl)]

end DoneBy

/-- The violation that an event is, under some limits. -/
def Event.violation? (limits : Limits) (limit : Duration) : Event → Option Failure
  | .expires => some (.timeout limit)
  | .samples usage => (limits.sample? usage).map .resourceLimit
  | _ => none

/-! ## What the tasks have done -/

def Guard.Did (noticed : Failure → Prop) (recorded : Option Failure) (deeds : List Deed) :
    Guard → Prop
  | .watching => recorded = none ∧ doneBy .guard deeds = []
  | .noticed violation => noticed violation ∧ recorded = none ∧ doneBy .guard deeds = []
  | .recorded => ∃ violation, noticed violation ∧ recorded = some violation ∧
      doneBy .guard deeds = [.recorded violation]
  | .finished => (recorded = none ∧ doneBy .guard deeds = []) ∨
      ∃ violation, noticed violation ∧ recorded = some violation ∧
        doneBy .guard deeds = [.recorded violation, .killedGroup .violation]

/-- How the waiter came to wait for the child, and what is to be told for it. -/
inductive Reaping (events : List Event) : Except Failure Ending → List Deed → Prop where
  | ended {outcome : Except String Ending} (came : .ends outcome ∈ events) :
      Reaping events (outcome.mapError .io) [.waited outcome]
  | cancelled {outcome : Except String Ending} (asked : .cancels ∈ events)
      (came : .ends outcome ∈ events) :
      Reaping events (.error .cancelled) [.heeded, .killedGroup .cancellation, .waited outcome]

/-- What the waiter tells for what was done before. -/
structure Tells (events : List Event) (before : List Deed) (answer : Except Failure Ending) :
    Prop where
  recorded : ∀ violation, .recorded violation ∈ before → answer = .error violation
  course : ∃ result own, Reaping events result own ∧
    doneBy .waiter before = own ++ [.killedGroup .remains, .stoppedGuard] ∧
    ((∀ violation, .recorded violation ∉ before) → answer = result)

def Waiter.Did (events : List Event) (deeds : List Deed) : Waiter → Prop
  | .waiting => doneBy .waiter deeds = []
  | .heeding => .cancels ∈ events ∧ doneBy .waiter deeds = [.heeded]
  | .reaping => .cancels ∈ events ∧
      doneBy .waiter deeds = [.heeded, .killedGroup .cancellation]
  | .reaped result => Reaping events result (doneBy .waiter deeds)
  | .swept result => ∃ own, Reaping events result own ∧
      doneBy .waiter deeds = own ++ [.killedGroup .remains]
  | .stopped result => ∃ own, Reaping events result own ∧
      doneBy .waiter deeds = own ++ [.killedGroup .remains, .stoppedGuard]
  | .returned answer => ∃ before later, deeds = before ++ .returned answer :: later ∧
      Tells events before answer ∧ doneBy .waiter later = []

section Frames

variable {deeds : List Deed} {deed : Deed}

theorem Guard.Did.concat_of_ne {noticed : Failure → Prop} {recorded : Option Failure}
    {guard : Guard} (did : guard.Did noticed recorded deeds) (other : deed.role ≠ .guard) :
    guard.Did noticed recorded (deeds ++ [deed]) := by
  cases guard <;> simpa only [Guard.Did, doneBy_concat_of_ne other] using did

theorem Guard.Did.stop {noticed : Failure → Prop} {recorded : Option Failure} {guard : Guard}
    (did : guard.Did noticed recorded deeds) : guard.stop.Did noticed recorded deeds := by
  cases guard with
  | watching => exact .inl did
  | noticed violation => exact did
  | recorded => exact did
  | finished => exact did

theorem Waiter.Did.concat_of_ne {events : List Event} {waiter : Waiter}
    (did : waiter.Did events deeds) (other : deed.role ≠ .waiter) :
    waiter.Did events (deeds ++ [deed]) := by
  cases waiter with
  | returned answer =>
      obtain ⟨before, later, done, tells, nothing⟩ := did
      refine ⟨before, later ++ [deed], ?_, tells, ?_⟩
      · rw [done, List.append_assoc, List.cons_append]
      · rw [doneBy_concat_of_ne other, nothing]
  | _ => simpa only [Waiter.Did, doneBy_concat_of_ne other] using did

end Frames

section Guarded

variable {noticed : Failure → Prop} {recorded : Option Failure} {guard : Guard}
  {deeds : List Deed}

/-- A guard has done nothing, or has recorded one violation and may have acted upon it. -/
theorem Guard.Did.shape (did : guard.Did noticed recorded deeds) :
    (recorded = none ∧ doneBy .guard deeds = []) ∨
      ∃ violation, noticed violation ∧ recorded = some violation ∧
        (doneBy .guard deeds = [.recorded violation] ∨
          doneBy .guard deeds = [.recorded violation, .killedGroup .violation]) := by
  cases guard with
  | watching => exact .inl did
  | noticed => exact .inl did.2
  | recorded =>
      obtain ⟨violation, seen, inCell, one⟩ := did
      exact .inr ⟨violation, seen, inCell, .inl one⟩
  | finished =>
      obtain nothing | ⟨violation, seen, inCell, both⟩ := did
      · exact .inl nothing
      · exact .inr ⟨violation, seen, inCell, .inr both⟩

theorem Guard.Did.noticed_of_recorded (did : guard.Did noticed recorded deeds)
    {violation : Failure} (inCell : recorded = some violation) : noticed violation := by
  subst inCell
  obtain ⟨⟨⟩, -⟩ | ⟨_, seen, ⟨⟩, -⟩ := did.shape
  exact seen

theorem Guard.Did.recorded_iff (did : guard.Did noticed recorded deeds) (violation : Failure) :
    .recorded violation ∈ deeds ↔ recorded = some violation := by
  rw [← mem_doneBy, Deed.role]
  obtain ⟨rfl, done⟩ | ⟨other, -, rfl, done | done⟩ := did.shape
  · simp [done]
  · simp [done, eq_comm]
  · simp [done, eq_comm]

/-- What the guard kills for it has recorded before. -/
theorem Guard.Did.exists_recorded {before later : List Deed}
    (did : guard.Did noticed recorded (before ++ later))
    (killed : .killedGroup .violation ∈ before) : ∃ violation, .recorded violation ∈ before := by
  have own : .killedGroup .violation ∈ doneBy .guard before := mem_doneBy.mpr killed
  have shape := did.shape
  rw [doneBy, List.filter_append, ← doneBy] at shape
  cases done : doneBy .guard before with
  | nil =>
      rw [done] at own
      cases own
  | cons first rest =>
      rw [done, List.cons_append] at shape
      suffices ∃ violation, first = .recorded violation by
        obtain ⟨violation, rfl⟩ := this
        have here : .recorded violation ∈ doneBy .guard before := done ▸ List.mem_cons_self
        exact ⟨violation, mem_doneBy.mp here⟩
      obtain ⟨-, none⟩ | ⟨violation, -, -, one | both⟩ := shape
      · cases none
      · exact ⟨violation, (List.cons.inj one).1⟩
      · exact ⟨violation, (List.cons.inj both).1⟩

end Guarded

namespace Watch

@[simp] theorem waiter_does (watch : Watch) (deed : Deed) :
    (watch.does deed).waiter = watch.waiter := rfl

@[simp] theorem outcome_does (watch : Watch) (deed : Deed) :
    (watch.does deed).outcome = watch.outcome := rfl

/-- What holds of a watch at any time, if all that comes about is among some events. -/
structure Kept (limits : Limits) (limit : Duration) (events : List Event) (watch : Watch) :
    Prop where
  sameLimits : watch.limits = limits
  sameLimit : watch.limit = limit
  guard : watch.guard.Did (fun violation => ∃ event ∈ events,
    event.violation? limits limit = some violation) watch.violation watch.deeds
  waiter : watch.waiter.Did events watch.deeds
  outcome : ∀ outcome, watch.outcome = some outcome → .ends outcome ∈ events
  cancelled : watch.cancelled = true → .cancels ∈ events

section Steps

variable {limits : Limits} {limit : Duration} {events : List Event} {watch : Watch}

theorem Kept.notice (kept : Kept limits limit events watch) {event : Event}
    (member : event ∈ events) :
    Kept limits limit events (watch.notice (event.violation? limits limit)) := by
  unfold Watch.notice
  split
  next violation watching noticed =>
    have did := kept.guard
    rw [watching] at did
    exact { kept with guard := ⟨⟨event, member, noticed⟩, did⟩ }
  next => exact kept

theorem Kept.guardStep (kept : Kept limits limit events watch) :
    Kept limits limit events watch.guardStep := by
  have did := kept.guard
  unfold Watch.guardStep
  split
  next => exact kept
  next violation noticed =>
    rw [noticed] at did
    obtain ⟨seen, unrecorded, nothing⟩ := did
    have recording : watch.record violation =
        { watch with violation := some violation }.does (.recorded violation) := by
      simp only [Watch.record, unrecorded]
    rw [recording]
    refine { kept with guard := ⟨violation, seen, rfl, ?_⟩, waiter := ?_ }
    · exact doneBy_concat nothing rfl
    · exact kept.waiter.concat_of_ne nofun
  next recorded =>
    rw [recorded] at did
    obtain ⟨violation, seen, inCell, one⟩ := did
    refine { kept with guard := .inr ⟨violation, seen, inCell, ?_⟩, waiter := ?_ }
    · exact doneBy_concat one rfl
    · exact kept.waiter.concat_of_ne nofun
  next => exact kept

/-- A step of the waiter that does one deed, and leaves all else but itself as it is. -/
theorem Kept.moved (kept : Kept limits limit events watch) {waiter : Waiter} {deed : Deed}
    (other : deed.role ≠ .guard) (did : waiter.Did events (watch.deeds ++ [deed])) :
    Kept limits limit events ({ watch with waiter }.does deed) :=
  { kept with guard := kept.guard.concat_of_ne other, waiter := did }

theorem Kept.reap (kept : Kept limits limit events watch)
    {result : Except String Ending → Except Failure Ending}
    (reaping : ∀ outcome, .ends outcome ∈ events →
      Reaping events (result outcome) (doneBy .waiter watch.deeds ++ [.waited outcome])) :
    Kept limits limit events (watch.reap result) := by
  unfold Watch.reap
  split
  next => exact kept
  next outcome there =>
    have done : doneBy .waiter (watch.deeds ++ [.waited outcome]) =
        doneBy .waiter watch.deeds ++ [.waited outcome] := doneBy_concat rfl rfl
    refine kept.moved nofun ?_
    rw [Waiter.Did, done]
    exact reaping outcome (kept.outcome outcome there)

theorem Kept.tells (kept : Kept limits limit events watch) {result : Except Failure Ending}
    {own : List Deed} (reaping : Reaping events result own)
    (done : doneBy .waiter watch.deeds = own ++ [.killedGroup .remains, .stoppedGuard]) :
    Tells events watch.deeds (watch.answer result) where
  recorded := by
    intro violation member
    have inCell := (kept.guard.recorded_iff violation).mp member
    simp only [answer, inCell]
  course := by
    refine ⟨result, own, reaping, done, fun unrecorded => ?_⟩
    have empty : watch.violation = none := by
      rw [Option.eq_none_iff_forall_ne_some]
      exact fun violation inCell =>
        unrecorded violation ((kept.guard.recorded_iff violation).mpr inCell)
    simp only [answer, empty]

theorem Kept.waiterStep (kept : Kept limits limit events watch) (heeding : Bool) :
    Kept limits limit events (watch.waiterStep heeding) := by
  have did := kept.waiter
  unfold Watch.waiterStep
  split
  next waiting =>
    rw [waiting] at did
    split
    next taken =>
      have asked := kept.cancelled (Bool.and_eq_true_iff.mp taken).1
      refine kept.moved nofun ⟨asked, ?_⟩
      exact doneBy_concat did rfl
    next =>
      refine kept.reap fun outcome came => ?_
      rw [show doneBy .waiter watch.deeds = [] from did]
      exact .ended came
  next heeded =>
    rw [heeded] at did
    refine kept.moved nofun ⟨did.1, ?_⟩
    exact doneBy_concat did.2 rfl
  next reaping =>
    rw [reaping] at did
    refine kept.reap fun outcome came => ?_
    rw [did.2]
    exact .cancelled did.1 came
  next result reaped =>
    rw [reaped] at did
    exact kept.moved nofun ⟨_, did, doneBy_concat rfl rfl⟩
  next result swept =>
    rw [swept] at did
    obtain ⟨own, reaping, done⟩ := did
    have stopped : Kept limits limit events { watch with guard := watch.guard.stop } :=
      { kept with guard := kept.guard.stop }
    refine stopped.moved nofun ⟨own, reaping, ?_⟩
    exact (doneBy_concat done rfl).trans (List.append_assoc own _ _)
  next result stopped =>
    rw [stopped] at did
    obtain ⟨own, reaping, done⟩ := did
    exact kept.moved nofun ⟨watch.deeds, [], rfl, kept.tells reaping done, rfl⟩
  next => exact kept

theorem Kept.step (kept : Kept limits limit events watch) {event : Event}
    (member : event ∈ events) : Kept limits limit events (watch.step event) := by
  cases event with
  | ends outcome =>
      refine { kept with outcome := fun other there => ?_ }
      obtain here | ⟨-, new⟩ := Option.or_eq_some_iff.mp there
      · exact kept.outcome other here
      · rwa [← Option.some.inj new]
  | cancels => exact { kept with cancelled := fun _ => member }
  | expires =>
      rw [Watch.step, kept.sameLimit]
      exact kept.notice member
  | samples usage =>
      rw [Watch.step, kept.sameLimits]
      exact kept.notice member
  | guard => exact kept.guardStep
  | waiter heeding => exact kept.waiterStep heeding

theorem Kept.foldl_step (kept : Kept limits limit events watch) {rest : List Event}
    (members : ∀ event ∈ rest, event ∈ events) :
    Kept limits limit events (rest.foldl Watch.step watch) := by
  induction rest generalizing watch with
  | nil => exact kept
  | cons event rest ih =>
      obtain ⟨first, others⟩ := List.forall_mem_cons.mp members
      exact ih (kept.step first) others

end Steps

theorem kept_after (limits : Limits) (limit : Duration) (events : List Event) :
    Kept limits limit events (after limits limit events) := by
  have start : Kept limits limit events { limits, limit } :=
    { sameLimits := rfl, sameLimit := rfl, guard := ⟨rfl, rfl⟩, waiter := rfl
      outcome := nofun, cancelled := nofun }
  exact start.foldl_step fun _ member => member

theorem did_of_answer? {events : List Event} {watch : Watch}
    (did : watch.waiter.Did events watch.deeds) {answer : Except Failure Ending}
    (answered : watch.answer? = some answer) :
    ∃ before later, watch.deeds = before ++ .returned answer :: later ∧
      Tells events before answer ∧ doneBy .waiter later = [] := by
  unfold answer? at answered
  split at answered
  next told returned =>
    rw [returned] at did
    rwa [← Option.some.inj answered]
  next => cases answered

/-- What is told is a violation that came about, a cancellation, or what waiting has given. -/
theorem answer?_after_cases {limits : Limits} {limit : Duration} {events : List Event}
    {answer : Except Failure Ending}
    (answered : (after limits limit events).answer? = some answer) :
    (∃ event ∈ events, ∃ violation, event.violation? limits limit = some violation ∧
      answer = .error violation) ∨
    answer = .error .cancelled ∨
    ∃ outcome : Except String Ending, answer = outcome.mapError .io := by
  have kept := kept_after limits limit events
  obtain ⟨before, later, done, tells, -⟩ := did_of_answer? kept.waiter answered
  by_cases some' : ∃ violation, .recorded violation ∈ before
  · obtain ⟨violation, member⟩ := some'
    have inCell : (after limits limit events).violation = some violation :=
      (kept.guard.recorded_iff violation).mp (done ▸ List.mem_append_left _ member)
    obtain ⟨event, came, noticed⟩ := kept.guard.noticed_of_recorded inCell
    exact .inl ⟨event, came, violation, noticed, tells.recorded violation member⟩
  · obtain ⟨result, own, reaping, -, told⟩ := tells.course
    rw [told (not_exists.mp some')]
    cases reaping with
    | ended => exact .inr (.inr ⟨_, rfl⟩)
    | cancelled => exact .inr (.inl rfl)

end Watch

end PlanGuard.Sandbox
