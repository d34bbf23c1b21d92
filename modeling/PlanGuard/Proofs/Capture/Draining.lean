import PlanGuard.Proofs.Capture.Collection

/-!
# What is in the channel when both pipes have ended

No chunk is added to it any more.  A loop that goes on until it is empty misses
nothing; one that is left earlier was late, whenever the pipes had ended.
-/

namespace PlanGuard

namespace Collection

variable {τ : Type}

/-- Both readers have found the end of their pipes, and the time for these is not over. -/
structure EndedInTime (c : Collection τ) : Prop where
  going : c.left = none
  ended : ∀ stream, c.reader stream = none
  early : ∀ bound, c.deadline = some bound → c.clock < bound

/--
Both pipes had ended at this moment.  All that has not arrived is in the channel, and
stays there only if the loop is left late.
-/
structure Drains (watched : Bool) (limit : Nat) (pipes : Stream → List (List UInt8))
    (moment : Nat) (arrived : List Chunk) (c : Collection τ) : Prop where
  watching : c.watched = watched
  captured : c.capture = Capture.collect watched limit arrived
  whole : Interleaves pipes (arrived ++ c.channel)
  ended : ∀ stream, c.reader stream = none
  since : moment ≤ c.clock
  early : ∀ bound, c.deadline = some bound → moment < bound
  left : ∀ gone, c.left = some gone →
    c.channel = [] ∨ ∃ bound, c.deadline = some bound ∧ bound ≤ gone

section Drains

variable {watched : Bool} {limit : Nat} {pipes : Stream → List (List UInt8)}
  {arrived : List Chunk} {moment : Nat} {c d : Collection τ}

theorem Delivers.drains (delivers : Delivers watched limit pipes arrived c)
    (timely : c.EndedInTime) : Drains watched limit pipes c.clock arrived c where
  watching := delivers.watching
  captured := delivers.captured
  whole stream := by
    rw [← delivers.going timely.going stream, timely.ended]
    exact (List.append_nil _).symm
  ended := timely.ended
  since := Nat.le_refl _
  early := timely.early
  left _ gone := by cases timely.going.symm.trans gone

theorem Drains.receive (drains : Drains watched limit pipes moment arrived c) {chunk : Chunk}
    {rest : List Chunk} (going : c.left = none) (next : c.channel = chunk :: rest) :
    Drains watched limit pipes moment (arrived ++ [chunk])
      { c with channel := rest, capture := c.capture.receive c.watched chunk } where
  watching := drains.watching
  captured := by rw [drains.captured, drains.watching, Capture.collect_append]
  whole := by
    have whole := drains.whole
    rwa [next, ← List.singleton_append, ← List.append_assoc] at whole
  ended := drains.ended
  since := drains.since
  early := drains.early
  left _ gone := by cases going.symm.trans gone

theorem Drains.leave (drains : Drains watched limit pipes moment arrived c)
    (due : c.channel = [] ∨ ∃ bound, c.deadline = some bound ∧ bound ≤ c.clock) :
    Drains watched limit pipes moment arrived c.leave where
  watching := drains.watching
  captured := drains.captured
  whole := drains.whole
  ended stream := by cases stream <;> rfl
  since := drains.since
  early := drains.early
  left _ gone := Option.some.inj gone ▸ due

theorem Drains.moves (drains : Drains watched limit pipes moment arrived c) {move : Move τ}
    (moves : Moves c move d) :
    ∃ more, Drains watched limit pipes moment (arrived ++ more) d := by
  have unchanged {e : Collection τ} (kept : Drains watched limit pipes moment arrived e) :
      ∃ more, Drains watched limit pipes moment (arrived ++ more) e :=
    ⟨[], (List.append_nil arrived).symm ▸ kept⟩
  cases moves with
  | send next => cases (drains.ended _).symm.trans next
  | close ended => cases (drains.ended _).symm.trans ended
  | receive going next => exact ⟨_, drains.receive going next⟩
  | hangUp going drained => exact unchanged (drains.leave (.inl drained))
  | expire going set late => exact unchanged (drains.leave (.inr ⟨_, set, late⟩))
  | pass =>
      exact unchanged
        { drains with since := Nat.le_trans drains.since (Nat.le_add_right _ _) }
  | reap going =>
      -- The time for the pipes begins only now, and they have ended already.
      refine unchanged { drains with early := fun bound set => ?_, left := fun gone left => ?_ }
      · rw [← Option.some.inj set]
        exact Nat.lt_of_le_of_lt drains.since (Nat.lt_add_of_pos_right (by decide))
      · cases going.symm.trans left
  | exit | reapTaken | answer | await | awaitTaken => exact unchanged { drains with }

theorem Drains.run (drains : Drains watched limit pipes moment arrived c) {made : List (Move τ)}
    (ran : c.run made = some d) :
    ∃ more, Drains watched limit pipes moment (arrived ++ more) d := by
  refine run_induction (motive := fun _ d =>
    ∃ more, Drains watched limit pipes moment (arrived ++ more) d)
    ⟨[], (List.append_nil arrived).symm ▸ drains⟩ ?_ ran
  rintro - before move after ⟨more, drains⟩ moves
  obtain ⟨further, longer⟩ := drains.moves moves
  exact ⟨more ++ further, List.append_assoc arrived more further ▸ longer⟩

end Drains

end Collection

end PlanGuard
