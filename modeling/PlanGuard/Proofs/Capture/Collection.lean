import PlanGuard.Collection
import PlanGuard.Proofs.Capture.Interleaving
import Mathlib.Data.List.Induction

/-!
# What the collecting of output preserves

`Moves` says of each move what must hold for it and what it changes; all that is
known of a run is drawn from it.  Two things are preserved whatever the order of the
moves: the chunks that were received, those in the channel and those yet to be sent
make up both pipes, and the result of the child is in one place and is given back
once.  Every move but the passing of time brings the end nearer, and until then
there is always one to be made.
-/

namespace PlanGuard

namespace Move

variable {τ : Type}

def exit? : Move τ → Option τ
  | .exit result => some result
  | _ => none

def isAnswer : Move τ → Bool
  | .answer => true
  | _ => false

def advances : Move τ → Bool
  | .pass _ => false
  | .expire => false
  | _ => true

end Move

namespace Collection

variable {τ : Type}

@[simp] theorem reader_setReader (c : Collection τ) (reader : Option (List (List UInt8)))
    (stream other : Stream) :
    (c.setReader reader stream).reader other =
      if stream = other then reader else c.reader other := by
  cases stream <;> cases other <;> rfl

section setReader

variable (c : Collection τ) (reader : Option (List (List UInt8))) (stream : Stream)

@[simp] theorem watched_setReader : (c.setReader reader stream).watched = c.watched := by
  cases stream <;> rfl

@[simp] theorem channel_setReader : (c.setReader reader stream).channel = c.channel := by
  cases stream <;> rfl

@[simp] theorem capture_setReader : (c.setReader reader stream).capture = c.capture := by
  cases stream <;> rfl

@[simp] theorem child_setReader : (c.setReader reader stream).child = c.child := by
  cases stream <;> rfl

@[simp] theorem finished_setReader : (c.setReader reader stream).finished = c.finished := by
  cases stream <;> rfl

@[simp] theorem deadline_setReader : (c.setReader reader stream).deadline = c.deadline := by
  cases stream <;> rfl

@[simp] theorem left_setReader : (c.setReader reader stream).left = c.left := by
  cases stream <;> rfl

@[simp] theorem returned_setReader : (c.setReader reader stream).returned = c.returned := by
  cases stream <;> rfl

@[simp] theorem misused_setReader : (c.setReader reader stream).misused = c.misused := by
  cases stream <;> rfl

end setReader

/-- What each move needs, and what it makes of a collection. -/
inductive Moves (c : Collection τ) : Move τ → Collection τ → Prop where
  | send {stream : Stream} {bytes : List UInt8} {rest : List (List UInt8)}
      (next : c.reader stream = some (bytes :: rest))
      (room : c.channel.length < channelCapacity) :
      Moves c (.send stream)
        (setReader { c with channel := c.channel ++ [({ stream, bytes } : Chunk)] }
          (some rest) stream)
  | close {stream : Stream} (ended : c.reader stream = some []) :
      Moves c (.close stream) (c.setReader none stream)
  | exit {result : τ} (running : c.child = .running) :
      Moves c (.exit result) { c with child := .ended result }
  | pass {span : Nat} : Moves c (.pass span) { c with clock := c.clock + span }
  | receive {chunk : Chunk} {rest : List Chunk} (going : c.left = none)
      (next : c.channel = chunk :: rest) :
      Moves c .receive
        { c with channel := rest, capture := c.capture.receive c.watched chunk }
  | hangUp (going : c.left = none) (drained : c.channel = [])
      (ended : ∀ stream, c.reader stream = none) : Moves c .hangUp c.leave
  | reap {result : τ} (going : c.left = none) (unseen : c.finished = none)
      (ended : c.child = .ended result) :
      Moves c .reap
        { c with
          child := .taken
          finished := some result
          deadline := some (c.clock + drainBound) }
  | reapTaken (going : c.left = none) (unseen : c.finished = none)
      (taken : c.child = .taken) : Moves c .reap { c with misused := true }
  | expire {bound : Nat} (going : c.left = none) (set : c.deadline = some bound)
      (late : bound ≤ c.clock) : Moves c .expire c.leave
  | answer {moment : Nat} {result : τ} (left : c.left = some moment)
      (due : c.returned = none) (seen : c.finished = some result) :
      Moves c .answer { c with returned := some result }
  | await {moment : Nat} {result : τ} (left : c.left = some moment)
      (due : c.returned = none) (unseen : c.finished = none)
      (ended : c.child = .ended result) :
      Moves c .answer { c with child := .taken, returned := some result }
  | awaitTaken {moment : Nat} (left : c.left = some moment) (due : c.returned = none)
      (unseen : c.finished = none) (taken : c.child = .taken) :
      Moves c .answer { c with misused := true }

theorem Moves.of_step {c d : Collection τ} {move : Move τ} (stepped : c.step move = some d) :
    Moves c move d := by
  cases move with
  | send stream =>
      dsimp only [step] at stepped
      split at stepped
      next next =>
        split at stepped
        next room => obtain rfl := Option.some.inj stepped; exact .send next room
        next => cases stepped
      next => cases stepped
  | close stream =>
      dsimp only [step] at stepped
      split at stepped
      next ended => obtain rfl := Option.some.inj stepped; exact .close ended
      next => cases stepped
  | exit result =>
      dsimp only [step] at stepped
      split at stepped
      next running => obtain rfl := Option.some.inj stepped; exact .exit running
      next => cases stepped
  | pass span => obtain rfl := Option.some.inj stepped; exact .pass
  | receive =>
      dsimp only [step] at stepped
      split at stepped
      next going next => obtain rfl := Option.some.inj stepped; exact .receive going next
      next => cases stepped
  | hangUp =>
      dsimp only [step] at stepped
      split at stepped
      next going drained first second =>
        obtain rfl := Option.some.inj stepped
        exact .hangUp going drained fun stream => by cases stream <;> assumption
      next => cases stepped
  | reap =>
      dsimp only [step, ask] at stepped
      split at stepped
      next going unseen =>
        split at stepped
        next => cases stepped
        next ended => obtain rfl := Option.some.inj stepped; exact .reap going unseen ended
        next taken => obtain rfl := Option.some.inj stepped; exact .reapTaken going unseen taken
      next => cases stepped
  | expire =>
      dsimp only [step] at stepped
      split at stepped
      next going set =>
        split at stepped
        next late => obtain rfl := Option.some.inj stepped; exact .expire going set late
        next => cases stepped
      next => cases stepped
  | answer =>
      dsimp only [step, ask] at stepped
      split at stepped
      next left due seen => obtain rfl := Option.some.inj stepped; exact .answer left due seen
      next left due unseen =>
        split at stepped
        next => cases stepped
        next ended => obtain rfl := Option.some.inj stepped; exact .await left due unseen ended
        next taken =>
          obtain rfl := Option.some.inj stepped
          exact .awaitTaken left due unseen taken
      next => cases stepped

theorem Moves.step_eq {c d : Collection τ} {move : Move τ} (moves : Moves c move d) :
    c.step move = some d := by
  cases moves with
  | send next room => simp only [step, next, if_pos room]
  | close ended => simp only [step, if_pos ended]
  | exit running => simp only [step, running]
  | pass => rfl
  | receive going next => simp only [step, going, next]
  | hangUp going drained ended =>
      have first : c.stdout = none := ended .stdout
      have second : c.stderr = none := ended .stderr
      simp only [step, going, drained, first, second]
  | reap going unseen ended => simp only [step, ask, going, unseen, ended]
  | reapTaken going unseen taken => simp only [step, ask, going, unseen, taken]
  | expire going set late => simp only [step, going, set, if_pos late]
  | answer left due seen => simp only [step, left, due, seen]
  | await left due unseen ended => simp only [step, ask, left, due, unseen, ended]
  | awaitTaken left due unseen taken => simp only [step, ask, left, due, unseen, taken]

/-! ## Runs -/

theorem run_append (c : Collection τ) (first second : List (Move τ)) :
    c.run (first ++ second) = (c.run first).bind fun d => d.run second := by
  induction first generalizing c with
  | nil => rfl
  | cons move rest ih =>
      rw [List.cons_append, run, run, Option.bind_assoc]
      exact congrArg (c.step move).bind (funext ih)

theorem Moves.run_cons {c d e : Collection τ} {move : Move τ} {made : List (Move τ)}
    (moves : Moves c move d) (later : d.run made = some e) :
    c.run (move :: made) = some e := by
  rw [run, moves.step_eq, Option.bind_some, later]

theorem run_trans {c d e : Collection τ} {first second : List (Move τ)}
    (earlier : c.run first = some d) (later : d.run second = some e) :
    c.run (first ++ second) = some e := by
  rw [run_append, earlier, Option.bind_some, later]

theorem run_induction {motive : List (Move τ) → Collection τ → Prop} {begun : Collection τ}
    (begins : motive [] begun)
    (goes : ∀ made c move d, motive made c → Moves c move d → motive (made ++ [move]) d)
    {made : List (Move τ)} {c : Collection τ} (ran : begun.run made = some c) :
    motive made c := by
  -- The last move is taken off, since the invariant holds of the state before it.
  induction made using List.reverseRecOn generalizing c with
  | nil => exact Option.some.inj ran ▸ begins
  | append_singleton made move ih =>
      rw [run_append] at ran
      obtain ⟨before, earlier, last⟩ := Option.bind_eq_some_iff.mp ran
      obtain ⟨after, stepped, ended⟩ := Option.bind_eq_some_iff.mp last
      obtain rfl := Option.some.inj ended
      exact goes made before move after (ih earlier) (.of_step stepped)

/-! ## No chunk is lost -/

/-- What has arrived, what is on its way and what is yet to be sent make up the pipes. -/
structure Delivers (watched : Bool) (limit : Nat) (pipes : Stream → List (List UInt8))
    (arrived : List Chunk) (c : Collection τ) : Prop where
  watching : c.watched = watched
  captured : c.capture = Capture.collect watched limit arrived
  going : c.left = none → ∀ stream,
    sentOn stream (arrived ++ c.channel) ++ (c.reader stream).getD [] = pipes stream
  /-- What has arrived is the beginning of an order of both pipes. -/
  within : ∃ rest, Interleaves pipes (arrived ++ rest)
  /-- Only when it is late is the loop left with chunks to come. -/
  left : ∀ moment, c.left = some moment →
    Interleaves pipes arrived ∨ ∃ bound, c.deadline = some bound ∧ bound ≤ moment

section Delivers

variable {watched : Bool} {limit : Nat} {pipes : Stream → List (List UInt8)}
  {arrived : List Chunk} {c d : Collection τ}

/-- As long as the loop goes on, it is enough to know where all chunks are. -/
theorem Delivers.of_going (watching : c.watched = watched)
    (captured : c.capture = Capture.collect watched limit arrived) (left : c.left = none)
    (whole : ∀ stream,
      sentOn stream (arrived ++ c.channel) ++ (c.reader stream).getD [] = pipes stream) :
    Delivers watched limit pipes arrived c where
  watching := watching
  captured := captured
  going := fun _ => whole
  within := by
    -- The channel comes first; after it any order of the two pipes will do.
    let unsent (stream : Stream) : List Chunk :=
      ((c.reader stream).getD []).map fun bytes => { stream, bytes : Chunk }
    refine ⟨c.channel ++ (unsent .stdout ++ unsent .stderr), fun stream => ?_⟩
    rw [← whole stream, ← List.append_assoc, sentOn_append, sentOn_append _ (unsent .stdout),
      sentOn_map, sentOn_map]
    cases stream with
    | stdout => rw [if_pos rfl, if_neg (by decide), List.append_nil]
    | stderr => rw [if_neg (by decide), if_pos rfl, List.nil_append]
  left := fun _ gone => by cases left.symm.trans gone

theorem delivers_start (pipes : Stream → Option (List (List UInt8))) :
    Delivers watched limit (fun stream => (pipes stream).getD []) []
      (start watched limit pipes : Collection τ) :=
  .of_going rfl rfl rfl fun stream => by cases stream <;> rfl

theorem Delivers.send (delivers : Delivers watched limit pipes arrived c) {stream : Stream}
    {bytes : List UInt8} {rest : List (List UInt8)}
    (next : c.reader stream = some (bytes :: rest)) :
    Delivers watched limit pipes arrived
      (setReader { c with channel := c.channel ++ [({ stream, bytes } : Chunk)] }
        (some rest) stream) where
  watching := (watched_setReader _ _ _).trans delivers.watching
  captured := (capture_setReader _ _ _).trans delivers.captured
  going := by
    intro going other
    rw [left_setReader] at going
    rw [← delivers.going going other, channel_setReader, reader_setReader,
      ← List.append_assoc arrived, sentOn_append other (arrived ++ c.channel), sentOn_cons,
      sentOn_nil, List.append_assoc]
    by_cases same : stream = other
    · subst same
      rw [if_pos rfl, if_pos rfl, next]
      rfl
    · rw [if_neg same, if_neg same]
      rfl
  within := delivers.within
  left := by
    rw [left_setReader, deadline_setReader]
    exact delivers.left

theorem Delivers.close (delivers : Delivers watched limit pipes arrived c) {stream : Stream}
    (ended : c.reader stream = some []) :
    Delivers watched limit pipes arrived (c.setReader none stream) where
  watching := (watched_setReader _ _ _).trans delivers.watching
  captured := (capture_setReader _ _ _).trans delivers.captured
  going := by
    intro going other
    rw [left_setReader] at going
    rw [← delivers.going going other, channel_setReader, reader_setReader]
    by_cases same : stream = other
    · subst same
      rw [if_pos rfl, ended]
      rfl
    · rw [if_neg same]
  within := delivers.within
  left := by
    rw [left_setReader, deadline_setReader]
    exact delivers.left

theorem Delivers.receive (delivers : Delivers watched limit pipes arrived c) {chunk : Chunk}
    {rest : List Chunk} (next : c.channel = chunk :: rest) (going : c.left = none) :
    Delivers watched limit pipes (arrived ++ [chunk])
      { c with channel := rest, capture := c.capture.receive c.watched chunk } := by
  refine .of_going delivers.watching ?_ going fun stream => ?_
  · rw [delivers.captured, delivers.watching, Capture.collect_append]
  · rw [← delivers.going going stream, next, List.append_assoc, List.singleton_append]
    rfl

theorem Delivers.hangUp (delivers : Delivers watched limit pipes arrived c)
    (going : c.left = none) (drained : c.channel = [])
    (ended : ∀ stream, c.reader stream = none) :
    Delivers watched limit pipes arrived c.leave where
  watching := delivers.watching
  captured := delivers.captured
  going := nofun
  within := delivers.within
  left := by
    refine fun _ _ => .inl fun stream => ?_
    rw [← delivers.going going stream, drained, ended, List.append_nil]
    exact (List.append_nil _).symm

/-- A move adds to what has arrived, if it touches it at all. -/
theorem Delivers.moves (delivers : Delivers watched limit pipes arrived c) {move : Move τ}
    (moves : Moves c move d) :
    ∃ more, Delivers watched limit pipes (arrived ++ more) d := by
  have unchanged {e : Collection τ} (kept : Delivers watched limit pipes arrived e) :
      ∃ more, Delivers watched limit pipes (arrived ++ more) e :=
    ⟨[], (List.append_nil arrived).symm ▸ kept⟩
  cases moves with
  | send next => exact unchanged (delivers.send next)
  | close ended => exact unchanged (delivers.close ended)
  | receive going next => exact ⟨_, delivers.receive next going⟩
  | hangUp going drained ended => exact unchanged (delivers.hangUp going drained ended)
  | expire going set late =>
      refine unchanged ⟨delivers.watching, delivers.captured, nofun, delivers.within,
        fun moment left => ?_⟩
      exact Option.some.inj left ▸ .inr ⟨_, set, late⟩
  | reap going =>
      exact unchanged ⟨delivers.watching, delivers.captured, delivers.going, delivers.within,
        fun moment left => by cases going.symm.trans left⟩
  | exit | pass | reapTaken | answer | await | awaitTaken =>
      exact unchanged ⟨delivers.watching, delivers.captured, delivers.going, delivers.within,
        delivers.left⟩

theorem exists_delivers {pipes : Stream → Option (List (List UInt8))} {made : List (Move τ)}
    (ran : (start watched limit pipes).run made = some c) :
    ∃ arrived, Delivers watched limit (fun stream => (pipes stream).getD []) arrived c := by
  refine run_induction (motive := fun _ c => ∃ arrived, Delivers watched limit
    (fun stream => (pipes stream).getD []) arrived c) ⟨[], delivers_start pipes⟩ ?_ ran
  rintro - before move after ⟨arrived, delivers⟩ moves
  obtain ⟨more, longer⟩ := delivers.moves moves
  exact ⟨_, longer⟩

end Delivers

/-! ## The result is taken once -/

/--
Where the result of the child is, after these ends of the child and so many answers:
with the child, with the loop, or given back.
-/
inductive Awaits (c : Collection τ) : List τ → Nat → Prop where
  | running (child : c.child = .running) (finished : c.finished = none)
      (returned : c.returned = none) : Awaits c [] 0
  | ended {result : τ} (child : c.child = .ended result) (finished : c.finished = none)
      (returned : c.returned = none) : Awaits c [result] 0
  | seen {result : τ} (child : c.child = .taken) (finished : c.finished = some result)
      (returned : c.returned = none) : Awaits c [result] 0
  | told {result : τ} {moment : Nat} (child : c.child = .taken)
      (left : c.left = some moment) (returned : c.returned = some result) :
      Awaits c [result] 1

theorem Awaits.same {c d : Collection τ} {exits : List τ} {answers : Nat}
    (awaits : Awaits c exits answers) (child : d.child = c.child)
    (finished : d.finished = c.finished) (returned : d.returned = c.returned)
    (left : ∀ moment, c.left = some moment → d.left = some moment) :
    Awaits d exits answers := by
  cases awaits with
  | running runs unseen due =>
      exact .running (child.trans runs) (finished.trans unseen) (returned.trans due)
  | ended stopped unseen due =>
      exact .ended (child.trans stopped) (finished.trans unseen) (returned.trans due)
  | seen taken known due =>
      exact .seen (child.trans taken) (finished.trans known) (returned.trans due)
  | told taken gone told =>
      exact .told (child.trans taken) (left _ gone) (returned.trans told)

/-- As long as anybody may ask the child, its result was not taken. -/
theorem Awaits.untaken {c : Collection τ} {exits : List τ} {answers : Nat}
    (awaits : Awaits c exits answers) (unseen : c.finished = none)
    (asks : c.left = none ∨ c.returned = none) : c.child ≠ .taken := by
  intro taken
  cases awaits with
  | running child | ended child => cases taken.symm.trans child
  | seen child finished => cases unseen.symm.trans finished
  | told child left returned =>
      rcases asks with going | due
      · cases going.symm.trans left
      · cases due.symm.trans returned

/-- What is given back is what the child has ended with, once. -/
theorem Awaits.of_returned {c : Collection τ} {exits : List τ} {answers : Nat}
    (awaits : Awaits c exits answers) {result : τ} (returned : c.returned = some result) :
    exits = [result] ∧ answers = 1 := by
  cases awaits with
  | running _ _ due | ended _ _ due | seen _ _ due => cases due.symm.trans returned
  | told _ _ told =>
      cases told.symm.trans returned
      exact ⟨rfl, rfl⟩

theorem Awaits.moves {c d : Collection τ} {move : Move τ} {exits : List τ} {answers : Nat}
    (awaits : Awaits c exits answers) (moves : Moves c move d) :
    Awaits d (exits ++ move.exit?.toList) (answers + move.isAnswer.toNat) := by
  -- Every move but `exit` and the two that ask the child leaves the result where it is.
  have quiet {e : Collection τ} (kept : Awaits e exits answers) :
      Awaits e (exits ++ []) (answers + 0) := (List.append_nil exits).symm ▸ kept
  cases moves with
  | send | close =>
      exact quiet (awaits.same (child_setReader _ _ _) (finished_setReader _ _ _)
        (returned_setReader _ _ _) fun moment left => (left_setReader _ _ _).trans left)
  | pass | receive => exact quiet (awaits.same rfl rfl rfl fun _ left => left)
  | hangUp going | expire going =>
      exact quiet (awaits.same rfl rfl rfl fun _ left => by cases going.symm.trans left)
  | exit running =>
      cases awaits with
      | running child finished returned => exact .ended rfl finished returned
      | ended child | seen child | told child => cases running.symm.trans child
  | reap going unseen ended =>
      cases awaits with
      | ended child finished returned =>
          cases ended.symm.trans child
          exact .seen rfl rfl returned
      | running child | seen child | told child => cases ended.symm.trans child
  | reapTaken going unseen taken => exact absurd taken (awaits.untaken unseen (.inl going))
  | answer left due seen =>
      cases awaits with
      | running child finished | ended child finished => cases seen.symm.trans finished
      | seen child finished returned =>
          cases seen.symm.trans finished
          exact .told child left rfl
      | told child gone returned => cases due.symm.trans returned
  | await left due unseen ended =>
      cases awaits with
      | ended child finished returned =>
          cases ended.symm.trans child
          exact .told rfl left rfl
      | running child | seen child | told child => cases ended.symm.trans child
  | awaitTaken left due unseen taken => exact absurd taken (awaits.untaken unseen (.inr due))

theorem Awaits.misused_eq {c d : Collection τ} {move : Move τ} {exits : List τ}
    {answers : Nat} (awaits : Awaits c exits answers) (moves : Moves c move d) :
    d.misused = c.misused := by
  cases moves with
  | send | close => exact misused_setReader _ _ _
  | exit | pass | receive | hangUp | reap | expire | answer | await => rfl
  | reapTaken going unseen taken => exact absurd taken (awaits.untaken unseen (.inl going))
  | awaitTaken left due unseen taken => exact absurd taken (awaits.untaken unseen (.inr due))

/-! ## The end comes nearer -/

def Awaited.work : Awaited τ → Nat
  | .running => 2
  | .ended _ => 1
  | .taken => 0

def readerWork : Option (List (List UInt8)) → Nat
  | none => 0
  | some pieces => 2 * pieces.length + 1

/-- A bound for the moves to come, those aside that only let time pass. -/
def work (c : Collection τ) : Nat :=
  readerWork c.stdout + readerWork c.stderr + c.channel.length + Awaited.work c.child +
    c.left.isNone.toNat + c.returned.isNone.toNat

theorem work_setReader (c : Collection τ) (reader : Option (List (List UInt8)))
    (stream : Stream) :
    (c.setReader reader stream).work + readerWork (c.reader stream) =
      c.work + readerWork reader := by
  cases stream with
  | stdout => simp only [work, setReader, Collection.reader]; omega
  | stderr => simp only [work, setReader, Collection.reader]; omega

theorem work_leave {c : Collection τ} (going : c.left = none) : c.leave.work < c.work := by
  simp only [work, leave, going, readerWork, Option.isNone_none, Option.isNone_some,
    Bool.toNat_true, Bool.toNat_false]
  omega

theorem Moves.work_le {c d : Collection τ} {move : Move τ} (moves : Moves c move d)
    (proper : d.misused = false) : d.work + move.advances.toNat ≤ c.work := by
  cases moves with
  | @send stream bytes rest next room =>
      let longer : Collection τ :=
        { c with channel := c.channel ++ [({ stream, bytes } : Chunk)] }
      have more : longer.work = c.work + 1 := by
        simp only [longer, work, List.length_append, List.length_singleton]
        omega
      have fewer : readerWork (longer.reader stream) = readerWork (some rest) + 2 :=
        congrArg readerWork next
      have sent := work_setReader longer (some rest) stream
      rw [more, fewer] at sent
      have lighter : (longer.setReader (some rest) stream).work + 1 ≤ c.work := by omega
      exact lighter
  | @close stream ended =>
      have closed := work_setReader c none stream
      rw [ended] at closed
      exact Nat.le_of_eq closed
  | exit running => simp only [work, running, Awaited.work, Move.advances, Bool.toNat_true]; omega
  | pass => exact Nat.le_refl _
  | receive going next =>
      simp only [work, next, List.length_cons, Move.advances, Bool.toNat_true]; omega
  | hangUp going => exact work_leave going
  | reap going unseen ended =>
      simp only [work, ended, Awaited.work, Move.advances, Bool.toNat_true]; omega
  | expire going => exact Nat.le_of_lt (work_leave going)
  | answer left due =>
      simp only [work, due, Option.isNone_none, Option.isNone_some, Move.advances,
        Bool.toNat_true, Bool.toNat_false]
      omega
  | await left due unseen ended =>
      simp only [work, due, ended, Awaited.work, Option.isNone_none, Option.isNone_some,
        Move.advances, Bool.toNat_true, Bool.toNat_false]
      omega
  | reapTaken | awaitTaken => cases proper

/-- What is known of a collection after some moves, whatever they were. -/
structure After (begun : Collection τ) (made : List (Move τ)) (c : Collection τ) : Prop where
  proper : c.misused = false
  awaits : Awaits c (made.filterMap Move.exit?) (made.countP Move.isAnswer)
  work : c.work + made.countP Move.advances ≤ begun.work

theorem After.moves {begun c d : Collection τ} {made : List (Move τ)} {move : Move τ}
    (after : After begun made c) (moves : Moves c move d) :
    After begun (made ++ [move]) d where
  proper := (after.awaits.misused_eq moves).trans after.proper
  awaits := by
    have further := after.awaits.moves moves
    rw [List.filterMap_append, List.countP_append]
    cases move <;> exact further
  work := by
    have proper := (after.awaits.misused_eq moves).trans after.proper
    have single : [move].countP Move.advances = move.advances.toNat := by
      cases move <;> rfl
    rw [List.countP_append, single, ← Nat.add_assoc, Nat.add_right_comm]
    exact Nat.le_trans (Nat.add_le_add_right (moves.work_le proper) _) after.work

theorem after_of_run {watched : Bool} {limit : Nat}
    {pipes : Stream → Option (List (List UInt8))} {made : List (Move τ)} {c : Collection τ}
    (ran : (start watched limit pipes).run made = some c) :
    After (start watched limit pipes) made c :=
  run_induction (motive := After (start watched limit pipes))
    ⟨rfl, .running rfl rfl rfl, Nat.le_refl _⟩
    (fun _ _ _ _ after moves => after.moves moves) ran

/-- Until the result is given back there is a move that advances. -/
theorem Awaits.exists_moves {c : Collection τ} {exits : List τ} {answers : Nat}
    (awaits : Awaits c exits answers) (due : c.returned = none) (result : τ) :
    ∃ move d, move.advances = true ∧ Moves c move d := by
  cases left : c.left with
  | none =>
      cases channel : c.channel with
      | cons chunk rest => exact ⟨.receive, _, rfl, .receive left channel⟩
      | nil =>
          have room : c.channel.length < channelCapacity := by
            rw [channel]
            decide
          have readerMoves {stream : Stream} {pieces : List (List UInt8)}
              (reads : c.reader stream = some pieces) :
              ∃ move d, move.advances = true ∧ Moves c move d := by
            cases pieces with
            | nil => exact ⟨.close stream, _, rfl, .close reads⟩
            | cons bytes rest => exact ⟨.send stream, _, rfl, .send reads room⟩
          cases first : c.reader .stdout with
          | some pieces => exact readerMoves first
          | none =>
              cases second : c.reader .stderr with
              | some pieces => exact readerMoves second
              | none =>
                  refine ⟨.hangUp, _, rfl, .hangUp left channel fun stream => ?_⟩
                  cases stream with
                  | stdout => exact first
                  | stderr => exact second
  | some moment =>
      cases awaits with
      | running child => exact ⟨.exit result, _, rfl, .exit child⟩
      | ended child finished => exact ⟨.answer, _, rfl, .await left due finished child⟩
      | seen child finished => exact ⟨.answer, _, rfl, .answer left due finished⟩
      | told child gone returned => cases due.symm.trans returned

/-! ## Watching changes nothing else -/

def shownTo (c : Collection τ) (watched : Bool) (shown : List Line) : Collection τ :=
  { c with watched, capture := { c.capture with shown } }

theorem Moves.shownTo {c d : Collection τ} {move : Move τ} (moves : Moves c move d)
    (watched : Bool) (shown : List Line) :
    ∃ further, Moves (c.shownTo watched shown) move (d.shownTo watched further) := by
  cases moves with
  | @send stream bytes rest next room =>
      refine ⟨shown, ?_⟩
      cases stream with
      | stdout => exact .send next room
      | stderr => exact .send next room
  | @close stream ended =>
      refine ⟨shown, ?_⟩
      cases stream with
      | stdout => exact .close ended
      | stderr => exact .close ended
  | exit running => exact ⟨shown, .exit running⟩
  | pass => exact ⟨shown, .pass⟩
  | receive going next => exact ⟨_, .receive going next⟩
  | hangUp going drained ended => exact ⟨shown, .hangUp going drained ended⟩
  | reap going unseen ended => exact ⟨shown, .reap going unseen ended⟩
  | reapTaken going unseen taken => exact ⟨shown, .reapTaken going unseen taken⟩
  | expire going set late => exact ⟨shown, .expire going set late⟩
  | answer left due seen => exact ⟨shown, .answer left due seen⟩
  | await left due unseen ended => exact ⟨shown, .await left due unseen ended⟩
  | awaitTaken left due unseen taken => exact ⟨shown, .awaitTaken left due unseen taken⟩

theorem exists_run_shownTo {c d : Collection τ} {made : List (Move τ)}
    (ran : c.run made = some d) (watched : Bool) (shown : List Line) :
    ∃ further, (c.shownTo watched shown).run made = some (d.shownTo watched further) := by
  induction made generalizing c shown with
  | nil => exact ⟨shown, Option.some.inj ran ▸ rfl⟩
  | cons move rest ih =>
      obtain ⟨next, stepped, later⟩ := Option.bind_eq_some_iff.mp ran
      obtain ⟨between, moves⟩ := (Moves.of_step stepped).shownTo watched shown
      obtain ⟨further, ended⟩ := ih later between
      exact ⟨further, moves.run_cons ended⟩

end Collection

end PlanGuard
