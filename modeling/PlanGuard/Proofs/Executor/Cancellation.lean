import PlanGuard.Proofs.Executor.Course
import PlanGuard.Proofs.Retry.Events

/-!
# Cancelled runs of commands

A run may be cancelled before it starts, or while a request is with the runner.
`HeedsCancellation` says of what has been noted outside that nothing comes after
such a moment.  Each command that is reached later is turned away: it has an entry
and makes no request.
-/

namespace PlanGuard

def Event.cancels : Event → Bool
  | .asked _ advice => advice.cancels
  | .requested exchange => exchange.reply.cancels

structure HeedsCancellation (cancelled : Bool) (log : List Event) : Prop where
  /-- A run that is cancelled beforehand reaches nothing. -/
  silent : cancelled = true → log = []
  /-- An event during which the run is cancelled is the last. -/
  last : ∀ before event after, log = before ++ event :: after →
    event.cancels = true → after = []

namespace HeedsCancellation

theorem nil (cancelled : Bool) : HeedsCancellation cancelled [] where
  silent := fun _ => rfl
  last := by
    intro before event after split
    simp at split

theorem singleton (event : Event) : HeedsCancellation false [event] where
  silent := nofun
  last := by
    intro before other after split _
    cases before with
    | nil => exact (List.cons.inj split).2.symm
    | cons head before => simp at split

/-- Two stretches heed it if the later one knows of the events of the earlier one. -/
theorem append {cancelled : Bool} {earlier later : List Event}
    (first : HeedsCancellation cancelled earlier)
    (second : HeedsCancellation (cancelled || earlier.any Event.cancels) later) :
    HeedsCancellation cancelled (earlier ++ later) where
  silent := by
    intro beforehand
    rw [first.silent beforehand, second.silent (by rw [beforehand, Bool.true_or])]
    rfl
  last := by
    intro before event after split cancels
    rcases List.append_eq_append_iff.mp split with
      ⟨front, -, later_eq⟩ | ⟨back, earlier_eq, back_eq⟩
    · exact second.last front event after later_eq cancels
    · cases back with
      | nil => exact second.last [] event after back_eq.symm cancels
      | cons head back =>
          obtain ⟨rfl, after_eq⟩ := List.cons.inj back_eq
          have nothing : back = [] := first.last before event back earlier_eq cancels
          have known : earlier.any Event.cancels = true :=
            List.any_eq_true.mpr ⟨event, by simp [earlier_eq], cancels⟩
          rw [after_eq, nothing, second.silent (by rw [known, Bool.or_true])]
          rfl

end HeedsCancellation

def Course.events {σ : Type} (course : Course σ) : List Event :=
  course.exchanges.map .requested

namespace Executor

variable {σ : Type} (executor : Executor) (runner : Runner σ) (watched : Bool)

/-- The entry of a command that is reached when the run is cancelled. -/
def turnedAway (index : Nat) (command : Command) : Entry :=
  if command.argv.isEmpty then .rejected index [] .emptyCommand
  else .rejected index (executor.settings.prepare command) .cancelled

/-- A cancelled run turns a command away and stays as it is. -/
theorem runAt_cancelled (index : Nat) (command : Command) (state : σ) :
    executor.runAt runner watched index command true state =
      { Course.start true state with entries := [executor.turnedAway index command] } := by
  unfold runAt turnedAway
  cases command.argv.isEmpty <;> rfl

theorem cancelled_runAt (index : Nat) (command : Command) (cancelled : Bool)
    (state : σ) :
    (executor.runAt runner watched index command cancelled state).cancelled =
      (cancelled ||
        (executor.runAt runner watched index command cancelled state).events.any
          Event.cancels) := by
  unfold runAt
  cases command.argv.isEmpty with
  | true => simp [Course.start, Course.events]
  | false =>
      cases cancelled with
      | true => rfl
      | false => simp [Course.events, Event.cancels]

theorem heeds_runAt (index : Nat) (command : Command) (cancelled : Bool) (state : σ) :
    HeedsCancellation cancelled
      (executor.runAt runner watched index command cancelled state).events := by
  unfold runAt
  cases command.argv.isEmpty with
  | true => exact .nil cancelled
  | false =>
      cases cancelled with
      | true => exact .nil true
      | false => exact .singleton _

/-- A run is cancelled at its end if it was so at its start or during a request. -/
theorem cancelled_runFrom (index : Nat) (commands : List Command) (cancelled : Bool)
    (state : σ) :
    (executor.runFrom runner watched index commands cancelled state).cancelled =
      (cancelled ||
        (executor.runFrom runner watched index commands cancelled state).events.any
          Event.cancels) := by
  induction commands generalizing index cancelled state with
  | nil => simp [runFrom, Course.start, Course.events]
  | cons command rest ih =>
      rw [runFrom_cons]
      have first := executor.cancelled_runAt runner watched index command cancelled state
      unfold Course.events at first ih ⊢
      dsimp only [Course.andThen]
      rw [ih, List.map_append, List.any_append, ← Bool.or_assoc, ← first]

theorem heeds_runFrom (index : Nat) (commands : List Command) (cancelled : Bool)
    (state : σ) :
    HeedsCancellation cancelled
      (executor.runFrom runner watched index commands cancelled state).events := by
  induction commands generalizing index cancelled state with
  | nil => exact .nil cancelled
  | cons command rest ih =>
      rw [runFrom_cons]
      have later := ih (index + 1)
        (executor.runAt runner watched index command cancelled state).cancelled
        (executor.runAt runner watched index command cancelled state).state
      rw [cancelled_runAt] at later
      unfold Course.events at later ⊢
      dsimp only [Course.andThen]
      rw [List.map_append, cancelled_runAt]
      exact (executor.heeds_runAt runner watched index command cancelled state).append later

/--
Commands that name a program are handed over one after the other, and all of them
unless the run is cancelled.
-/
theorem requests_runFrom {commands : List Command}
    (named : ∀ command ∈ commands, command.argv ≠ []) (index : Nat) (cancelled : Bool)
    (state : σ) :
    let course := executor.runFrom runner watched index commands cancelled state
    course.requests <+: commands.map executor.requestFor ∧
      (course.cancelled = false →
        course.requests = commands.map executor.requestFor) := by
  induction commands generalizing index cancelled state with
  | nil => exact ⟨List.prefix_rfl, fun _ => rfl⟩
  | cons command rest ih =>
      cases cancelled with
      | true =>
          have nothing := (executor.heeds_runFrom runner watched index (command :: rest)
            true state).silent rfl
          have silent := List.map_eq_nil_iff.mp nothing
          have stopped :=
            executor.cancelled_runFrom runner watched index (command :: rest) true state
          dsimp only [Course.requests]
          rw [silent, stopped, Bool.true_or]
          exact ⟨List.nil_prefix, nofun⟩
      | false =>
          have first : (executor.runAt runner watched index command false state).requests =
              [executor.requestFor command] := by
            unfold runAt
            rw [if_neg (by simpa using named command List.mem_cons_self)]
            rfl
          obtain ⟨asked, whole⟩ :=
            ih (fun other member => named other (List.mem_cons_of_mem command member))
              (index + 1)
              (executor.runAt runner watched index command false state).cancelled
              (executor.runAt runner watched index command false state).state
          rw [runFrom_cons]
          unfold Course.requests at *
          dsimp only [Course.andThen] at *
          rw [List.map_append, first, List.map_cons, List.singleton_append]
          refine ⟨?_, fun live => by rw [whole live]⟩
          rw [List.prefix_cons_inj]
          exact asked

/-- What reaches the runner in the run of a plan, as the runner itself notes it. -/
def events (plan : Plan) (cancelled : Bool) (state : σ) : List Event :=
  (executor.runPlan runner.observed watched plan cancelled (state, [])).state.2

theorem events_eq (plan : Plan) (cancelled : Bool) (state : σ) :
    executor.events runner watched plan cancelled state =
      (executor.runPlan runner watched plan cancelled state).events := by
  unfold events runPlan
  rw [runFrom_observed]
  exact List.nil_append _

/--
A command is turned away if the run is cancelled when the commands before it have
been run, and what these have brought to the runner is then all there is.
-/
theorem runPlan_of_cancelled {plan : Plan} {earlier later : List Command}
    {command : Command} (split : plan.commands = earlier ++ command :: later)
    {cancelled : Bool} {state : σ}
    (ended : cancelled = true ∨
      ∃ event ∈ executor.events runner watched { commands := earlier } cancelled state,
        event.cancels = true) :
    executor.events runner watched plan cancelled state =
        executor.events runner watched { commands := earlier } cancelled state ∧
      (executor.runPlan runner watched plan cancelled state).entries[earlier.length]? =
        some (executor.turnedAway earlier.length command) := by
  rw [events_eq, events_eq] at *
  unfold runPlan at *
  rw [split, runFrom_append, Nat.zero_add]
  have entries := executor.length_entries_runFrom runner watched 0 earlier cancelled state
  have noticed := executor.cancelled_runFrom runner watched 0 earlier cancelled state
  dsimp only at ended ⊢
  generalize executor.runFrom runner watched 0 earlier cancelled state = first
    at ended entries noticed ⊢
  have stopped : first.cancelled = true := by
    rw [noticed, Bool.or_eq_true, List.any_eq_true]
    exact ended
  rw [stopped]
  have nothing := (executor.heeds_runFrom runner watched earlier.length
    (command :: later) true first.state).silent rfl
  constructor
  · unfold Course.events at nothing ⊢
    dsimp only [Course.andThen]
    rw [List.map_append, nothing, List.append_nil]
  · rw [runFrom_cons, runAt_cancelled]
    dsimp only [Course.andThen]
    rw [List.getElem?_append_right (Nat.le_of_eq entries), entries, Nat.sub_self]
    rfl

end Executor

end PlanGuard
