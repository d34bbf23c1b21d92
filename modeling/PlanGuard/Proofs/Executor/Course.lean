import PlanGuard.Executor
import PlanGuard.Proofs.Journal.Count

/-!
# What a course contains

`Handled` says what one command can leave behind, whatever the runner does: an
entry of a command that was turned away, or an entry with the exchange that it
comes from.  A course of many commands is made of such pieces in order, so its
entries all succeed exactly when every command was handed over and none failed.
-/

namespace PlanGuard

namespace Course

variable {σ : Type}

theorem andThen_assoc (first second third : Course σ) :
    (first.andThen second).andThen third = first.andThen (second.andThen third) := by
  unfold andThen
  simp only [List.append_assoc]

end Course

namespace Executor

def requestFor (executor : Executor) (command : Command) : Request :=
  executor.request (executor.settings.prepare command)

/-- What one command leaves behind: an entry, and the exchange if there was one. -/
inductive Handled (executor : Executor) (index : Nat) (command : Command) :
    List Entry → List Exchange → Prop where
  | empty (nameless : command.argv = []) :
      Handled executor index command [.rejected index [] .emptyCommand] []
  | skipped (named : command.argv ≠ []) :
      Handled executor index command
        [.rejected index (executor.settings.prepare command) .cancelled] []
  | ran (named : command.argv ≠ []) (reply : Reply) :
      Handled executor index command
        [entry index (executor.settings.prepare command) reply]
        [⟨executor.requestFor command, reply⟩]

variable {σ : Type} (executor : Executor) (runner : Runner σ) (watched : Bool)

theorem handled_runAt (index : Nat) (command : Command) (cancelled : Bool)
    (state : σ) :
    executor.Handled index command
      (executor.runAt runner watched index command cancelled state).entries
      (executor.runAt runner watched index command cancelled state).exchanges := by
  unfold runAt
  cases nameless : command.argv with
  | nil => exact .empty nameless
  | cons program rest =>
      have named : command.argv ≠ [] := by simp [nameless]
      rw [List.isEmpty_cons, if_neg Bool.false_ne_true]
      cases cancelled with
      | true => exact .skipped named
      | false => exact .ran named _

theorem runFrom_cons (index : Nat) (command : Command) (rest : List Command)
    (cancelled : Bool) (state : σ) :
    executor.runFrom runner watched index (command :: rest) cancelled state =
      let first := executor.runAt runner watched index command cancelled state
      first.andThen (executor.runFrom runner watched (index + 1) rest
        first.cancelled first.state) :=
  rfl

theorem runFrom_append (index : Nat) (earlier later : List Command) (cancelled : Bool)
    (state : σ) :
    executor.runFrom runner watched index (earlier ++ later) cancelled state =
      let first := executor.runFrom runner watched index earlier cancelled state
      first.andThen (executor.runFrom runner watched (index + earlier.length) later
        first.cancelled first.state) := by
  induction earlier generalizing index cancelled state with
  | nil => rfl
  | cons command rest ih =>
      rw [List.cons_append, runFrom_cons, runFrom_cons]
      dsimp only
      rw [ih, Course.andThen_assoc, List.length_cons, Nat.add_assoc index,
        Nat.add_comm 1]
      rfl

theorem runAt_keeps {P : σ → Prop}
    (keeps : ∀ watched request state, P state → P (runner watched request state).2)
    (index : Nat) (command : Command) (cancelled : Bool) {state : σ} (holds : P state) :
    P (executor.runAt runner watched index command cancelled state).state := by
  unfold runAt
  split
  · exact holds
  · dsimp only
    split
    · exact holds
    · exact keeps _ _ state holds

theorem runFrom_keeps {P : σ → Prop}
    (keeps : ∀ watched request state, P state → P (runner watched request state).2)
    (index : Nat) (commands : List Command) (cancelled : Bool) {state : σ}
    (holds : P state) :
    P (executor.runFrom runner watched index commands cancelled state).state := by
  induction commands generalizing index cancelled state with
  | nil => exact holds
  | cons command rest ih =>
      exact ih (index + 1) _
        (executor.runAt_keeps runner watched keeps index command cancelled holds)

namespace Handled

variable {executor : Executor} {index : Nat} {command : Command}
  {entries : List Entry} {exchanges : List Exchange}

theorem length_entries
    (handled : executor.Handled index command entries exchanges) :
    entries.length = 1 := by
  cases handled <;> rfl

theorem length_exchanges_le
    (handled : executor.Handled index command entries exchanges) :
    exchanges.length ≤ 1 := by
  cases handled <;> simp

/-- The entry of a command that names a program shows its argv after the prefix. -/
theorem entry_of_named (handled : executor.Handled index command entries exchanges)
    (named : command.argv ≠ []) :
    ∃ entry, entries = [entry] ∧ entry.index = index ∧
      entry.argv = executor.settings.prepare command := by
  cases handled with
  | empty nameless => exact absurd nameless named
  | skipped => exact ⟨_, rfl, rfl, rfl⟩
  | ran _ reply => exact ⟨_, rfl, rfl, rfl⟩

/-- Nothing is handed to the runner but the request for the command. -/
theorem request_of_mem
    (handled : executor.Handled index command entries exchanges)
    {exchange : Exchange} (member : exchange ∈ exchanges) :
    exchange.request = executor.requestFor command := by
  cases handled with
  | empty nameless => cases member
  | skipped named => cases member
  | ran named reply => rw [List.mem_singleton.mp member]

/-- A command succeeds exactly when it was handed over and did not fail. -/
theorem succeeds_iff
    (handled : executor.Handled index command entries exchanges) :
    (∀ entry ∈ entries, entry.failure = none) ↔
      exchanges.map (·.request) = [executor.requestFor command] ∧
        ∀ exchange ∈ exchanges, exchange.reply.failure = none := by
  cases handled with
  | empty nameless => simp [Entry.rejected]
  | skipped named => simp [Entry.rejected]
  | ran named reply => simp [entry]

end Handled

theorem length_entries_runFrom (index : Nat) (commands : List Command)
    (cancelled : Bool) (state : σ) :
    (executor.runFrom runner watched index commands cancelled state).entries.length =
      commands.length := by
  induction commands generalizing index cancelled state with
  | nil => rfl
  | cons command rest ih =>
      rw [runFrom_cons]
      dsimp only [Course.andThen]
      rw [List.length_append, ih]
      rw [(executor.handled_runAt runner watched index command cancelled
        state).length_entries, List.length_cons, Nat.add_comm]

theorem length_exchanges_runFrom_le (index : Nat) (commands : List Command)
    (cancelled : Bool) (state : σ) :
    (executor.runFrom runner watched index commands cancelled state).exchanges.length ≤
      commands.length := by
  induction commands generalizing index cancelled state with
  | nil => exact Nat.le_refl 0
  | cons command rest ih =>
      rw [runFrom_cons]
      dsimp only [Course.andThen]
      rw [List.length_append, List.length_cons, Nat.add_comm]
      exact Nat.add_le_add (ih _ _ _)
        (executor.handled_runAt runner watched index command cancelled
          state).length_exchanges_le

/-- Nothing is handed to the runner but requests for the commands. -/
theorem request_of_mem_exchanges_runFrom {index : Nat} {commands : List Command}
    {cancelled : Bool} {state : σ} {exchange : Exchange}
    (member : exchange ∈
      (executor.runFrom runner watched index commands cancelled state).exchanges) :
    ∃ command ∈ commands, exchange.request = executor.requestFor command := by
  induction commands generalizing index cancelled state with
  | nil => cases member
  | cons command rest ih =>
      rw [runFrom_cons] at member
      rcases List.mem_append.mp member with first | later
      · exact ⟨command, List.mem_cons_self,
          (executor.handled_runAt runner watched index command cancelled
            state).request_of_mem first⟩
      · obtain ⟨other, inside, asked⟩ := ih later
        exact ⟨other, List.mem_cons_of_mem _ inside, asked⟩

/-- The entry at a position is about the command there, if all commands name a program. -/
theorem getElem?_entries_runFrom {commands : List Command}
    (named : ∀ command ∈ commands, command.argv ≠ []) (index : Nat) (cancelled : Bool)
    (state : σ) {position : Nat} {command : Command}
    (found : commands[position]? = some command) :
    ∃ entry,
      (executor.runFrom runner watched index commands cancelled
          state).entries[position]? = some entry ∧
        entry.index = index + position ∧
        entry.argv = executor.settings.prepare command := by
  induction commands generalizing index cancelled state position with
  | nil => cases found
  | cons first rest ih =>
      obtain ⟨entry, only, here, about⟩ :=
        (executor.handled_runAt runner watched index first cancelled
          state).entry_of_named (named first List.mem_cons_self)
      rw [runFrom_cons]
      dsimp only [Course.andThen]
      rw [only, List.singleton_append]
      cases position with
      | zero =>
          obtain rfl : first = command := Option.some.inj found
          exact ⟨entry, rfl, here, about⟩
      | succ position =>
          obtain ⟨later, stands, there, aboutLater⟩ :=
            ih (fun other member => named other (List.mem_cons_of_mem first member))
              (index + 1) _ _ found
          exact ⟨later, stands, by omega, aboutLater⟩

/--
All entries succeed exactly when every command was handed to the runner, in
order, and no reply tells of a failure.
-/
theorem runFrom_succeeds_iff (index : Nat) (commands : List Command)
    (cancelled : Bool) (state : σ) :
    (∀ entry ∈
        (executor.runFrom runner watched index commands cancelled state).entries,
      entry.failure = none) ↔
      (executor.runFrom runner watched index commands cancelled
          state).exchanges.map (·.request) = commands.map executor.requestFor ∧
        ∀ exchange ∈
          (executor.runFrom runner watched index commands cancelled state).exchanges,
          exchange.reply.failure = none := by
  induction commands generalizing index cancelled state with
  | nil => simp [runFrom, Course.start]
  | cons command rest ih =>
      rw [runFrom_cons]
      dsimp only [Course.andThen]
      have handled := executor.handled_runAt runner watched index command cancelled state
      generalize executor.runAt runner watched index command cancelled state = first
        at handled ⊢
      have bound := executor.length_exchanges_runFrom_le runner watched (index + 1) rest
        first.cancelled first.state
      rw [List.forall_mem_append, List.forall_mem_append, handled.succeeds_iff, ih,
        List.map_append, List.map_cons]
      constructor
      · rintro ⟨⟨asked, fine⟩, askedRest, fineRest⟩
        refine ⟨?_, fine, fineRest⟩
        rw [asked, askedRest]
        rfl
      · rintro ⟨asked, fine, fineRest⟩
        -- No piece can hold more exchanges than commands, so both are full.
        have full : first.exchanges.length = 1 := by
          have total := congrArg List.length asked
          have few := handled.length_exchanges_le
          simp only [List.length_append, List.length_map, List.length_cons] at total
          omega
        rw [← List.singleton_append] at asked
        obtain ⟨askedFirst, askedRest⟩ := List.append_inj asked (by simp [full])
        exact ⟨⟨askedFirst, fine⟩, askedRest, fineRest⟩

/--
The journal of a plan is a success exactly when the whole plan was handed over
and no reply tells of a failure.
-/
theorem isSuccess_runPlan_iff (plan : Plan) (cancelled : Bool) (state : σ) :
    (executor.runPlan runner watched plan cancelled state).journal.isSuccess = true ↔
      (executor.runPlan runner watched plan cancelled state).exchanges.map (·.request) =
          plan.commands.map executor.requestFor ∧
        ∀ exchange ∈ (executor.runPlan runner watched plan cancelled state).exchanges,
          exchange.reply.failure = none := by
  have succeeds :=
    executor.runFrom_succeeds_iff runner watched 0 plan.commands cancelled state
  unfold Course.journal
  rw [(Journal.counted_ofEntries _).isSuccess_iff, Journal.entries_ofEntries]
  exact succeeds

end Executor

end PlanGuard
