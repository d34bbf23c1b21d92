import PlanGuard.Proofs.Capture.Draining
import PlanGuard.Supervision

/-!
# Output is collected in whatever order it arrives

Every order of arrival that keeps the order of each pipe is that of some run, with
the end of the child seen at any point of it; and whatever the run, the result of the
child is given back, and nothing of the two pipes is missing from what a loop has
collected that is left before it is late.  One that is left late can miss what is in
the channel.
-/

namespace PlanGuard

namespace Collection

variable {τ : Type}

/--
The loop was left before the time for the pipes was over, if that had begun.  Then it
was left because it had seen the end of both.
-/
def LeftInTime (c : Collection τ) : Prop :=
  ∃ moment, c.left = some moment ∧ ∀ bound, c.deadline = some bound → moment < bound

theorem LeftInTime.of_deadline {c : Collection τ} {moment : Nat} (left : c.left = some moment)
    (deadline : c.deadline = some (moment + drainBound)) : c.LeftInTime := by
  refine ⟨moment, left, fun bound set => ?_⟩
  rw [← Option.some.inj (deadline.symm.trans set)]
  exact Nat.lt_add_of_pos_right (by decide)

theorem Delivers.interleaves {watched : Bool} {limit : Nat}
    {pipes : Stream → List (List UInt8)} {arrived : List Chunk} {c : Collection τ}
    (delivers : Delivers watched limit pipes arrived c) (timely : c.LeftInTime) :
    Interleaves pipes arrived := by
  obtain ⟨moment, left, early⟩ := timely
  rcases delivers.left moment left with whole | ⟨bound, set, late⟩
  · exact whole
  · exact absurd (early bound set) (Nat.not_lt.mpr late)

/-! ## A run for every order -/

theorem run_relay {c : Collection τ} (going : c.left = none) (empty : c.channel = [])
    {chunk : Chunk} {rest : List (List UInt8)}
    (next : c.reader chunk.stream = some (chunk.bytes :: rest)) :
    c.run (relay chunk) =
      some (setReader { c with capture := c.capture.receive c.watched chunk }
        (some rest) chunk.stream) := by
  have room : c.channel.length < channelCapacity := by
    rw [empty]
    decide
  have sent := Moves.send next room
  rw [empty, List.nil_append] at sent
  have received := Moves.receive
    (c := setReader { c with channel := [chunk] } (some rest) chunk.stream)
    ((left_setReader _ _ _).trans going) (channel_setReader _ _ _)
  refine (sent.run_cons (received.run_cons rfl)).trans ?_
  cases chunk.stream <;> rw [← empty] <;> rfl

theorem eq_some_of_getD_eq_cons {reader : Option (List (List UInt8))} {bytes : List UInt8}
    {rest : List (List UInt8)} (due : reader.getD [] = bytes :: rest) :
    reader = some (bytes :: rest) := by
  cases reader with
  | none => cases due
  | some pieces => exact congrArg some due

/-- A reader goes on with what is left to it; if there is none, nothing is left. -/
theorem getD_map_of_getD_eq_append {reader : Option (List (List UInt8))}
    {first rest : List (List UInt8)} (due : reader.getD [] = first ++ rest) :
    (reader.map fun _ => rest).getD [] = rest := by
  cases reader with
  | none => exact (List.append_eq_nil_iff.mp due.symm).2.symm
  | some pieces => rfl

/-- Chunks that are relayed one by one are received; the readers go on with the rest. -/
theorem run_relays {c : Collection τ} (going : c.left = none) (empty : c.channel = [])
    (arrived : List Chunk) (rest : Stream → List (List UInt8))
    (due : ∀ stream, (c.reader stream).getD [] = sentOn stream arrived ++ rest stream) :
    c.run (arrived.flatMap relay) =
      some { c with
        stdout := c.stdout.map fun _ => rest .stdout
        stderr := c.stderr.map fun _ => rest .stderr
        capture := arrived.foldl (Capture.receive c.watched) c.capture } := by
  induction arrived generalizing c with
  | nil =>
      have same {reader : Option (List (List UInt8))} {stream : Stream}
          (owes : reader.getD [] = rest stream) : (reader.map fun _ => rest stream) = reader := by
        cases reader with
        | none => rfl
        | some pieces => exact congrArg some owes.symm
      have first : (c.stdout.map fun _ => rest .stdout) = c.stdout := same (due .stdout)
      have second : (c.stderr.map fun _ => rest .stderr) = c.stderr := same (due .stderr)
      rw [first, second]
      rfl
  | cons chunk arrived ih =>
      have next := due chunk.stream
      rw [sentOn_cons, if_pos rfl, List.cons_append] at next
      have here := eq_some_of_getD_eq_cons next
      have later := ih
        (c := setReader { c with capture := c.capture.receive c.watched chunk }
          (some (sentOn chunk.stream arrived ++ rest chunk.stream)) chunk.stream)
        ((left_setReader _ _ _).trans going) ((channel_setReader _ _ _).trans empty) <| by
          intro stream
          rw [reader_setReader]
          split
          next same => rw [← same, Option.getD_some]
          next other =>
            have same := due stream
            rwa [sentOn_cons, if_neg other] at same
      refine (run_trans (run_relay going empty here) later).trans ?_
      obtain ⟨stream, bytes⟩ := chunk
      cases stream with
      | stdout =>
          have reads : c.stdout = some _ := here
          rw [reads]
          rfl
      | stderr =>
          have reads : c.stderr = some _ := here
          rw [reads]
          rfl

theorem exists_run_close {c : Collection τ} (stream : Stream)
    (idle : (c.reader stream).getD [] = []) :
    ∃ moves, c.run moves = some (c.setReader none stream) := by
  cases reader : c.reader stream with
  | none =>
      refine ⟨[], ?_⟩
      cases stream with
      | stdout => rw [setReader, ← reader]; rfl
      | stderr => rw [setReader, ← reader]; rfl
  | some pieces =>
      rw [reader, Option.getD_some] at idle
      subst idle
      exact ⟨[.close stream], (Moves.close reader).run_cons rfl⟩

theorem exists_run_leave {c : Collection τ} (going : c.left = none) (empty : c.channel = [])
    (idle : ∀ stream, (c.reader stream).getD [] = []) :
    ∃ moves, c.run moves = some c.leave := by
  obtain ⟨closeFirst, first⟩ := exists_run_close .stdout (idle .stdout)
  obtain ⟨closeSecond, second⟩ :=
    exists_run_close (c := c.setReader none .stdout) .stderr (idle .stderr)
  have hangs : Moves ((c.setReader none .stdout).setReader none .stderr) .hangUp c.leave :=
    .hangUp going empty fun stream => by cases stream <;> rfl
  exact ⟨closeFirst ++ (closeSecond ++ [.hangUp]),
    run_trans first (run_trans second (hangs.run_cons rfl))⟩

/-- Once the end of the child is seen, what is left arrives and the result is given back. -/
theorem exists_run_finish {c : Collection τ} {result : τ} (going : c.left = none)
    (empty : c.channel = []) (seen : c.finished = some result) (asked : c.returned = none)
    (arrived : List Chunk) (due : ∀ stream, (c.reader stream).getD [] = sentOn stream arrived) :
    ∃ late final, c.run late = some final ∧ final.left = some c.clock ∧
      final.deadline = c.deadline ∧ final.returned = some result ∧
      final.capture = arrived.foldl (Capture.receive c.watched) c.capture := by
  have owes (stream : Stream) : (c.reader stream).getD [] = sentOn stream arrived ++ [] :=
    (due stream).trans (List.append_nil _).symm
  have relays := run_relays going empty arrived (fun _ => []) owes
  let relayed : Collection τ :=
    { c with
      stdout := c.stdout.map fun _ => []
      stderr := c.stderr.map fun _ => []
      capture := arrived.foldl (Capture.receive c.watched) c.capture }
  obtain ⟨ending, leaves⟩ := exists_run_leave (c := relayed) going empty fun stream => by
    cases stream with
    | stdout => exact getD_map_of_getD_eq_append (owes .stdout)
    | stderr => exact getD_map_of_getD_eq_append (owes .stderr)
  have answers := Moves.answer (c := relayed.leave) rfl asked seen
  exact ⟨arrived.flatMap relay ++ (ending ++ [.answer]),
    { relayed.leave with returned := some result },
    run_trans relays (run_trans leaves (answers.run_cons rfl)), rfl, rfl, rfl, rfl⟩

/--
Chunks arrive, the child ends and is seen to, the rest arrives: any order of both
pipes and any point in it are those of some run.
-/
theorem exists_run (watched : Bool) (limit : Nat)
    (pipes : Stream → Option (List (List UInt8))) {before after : List Chunk}
    (interleaves : Interleaves (fun stream => (pipes stream).getD []) (before ++ after))
    (result : τ) :
    ∃ early late seen final,
      (start watched limit pipes).run early = some seen ∧
      seen.left = none ∧ seen.finished = none ∧
      seen.capture = Capture.collect watched limit before ∧
      seen.run (.exit result :: .reap :: late) = some final ∧
      final.LeftInTime ∧ final.returned = some result ∧
      final.capture = Capture.collect watched limit (before ++ after) := by
  have owes (stream : Stream) :
      (pipes stream).getD [] = sentOn stream before ++ sentOn stream after := by
    rw [← sentOn_append, interleaves stream]
  -- Each chunk is taken as soon as it is sent, so the channel is empty in between.
  have early := run_relays (c := (start watched limit pipes : Collection τ)) rfl rfl before
    (fun stream => sentOn stream after) fun stream => by
      cases stream <;> exact owes _
  let seen : Collection τ :=
    { start watched limit pipes with
      stdout := (pipes .stdout).map fun _ => sentOn .stdout after
      stderr := (pipes .stderr).map fun _ => sentOn .stderr after
      capture := Capture.collect watched limit before }
  have exits : Moves seen (.exit result) { seen with child := .ended result } := .exit rfl
  have reaps := Moves.reap (c := { seen with child := .ended result }) rfl rfl rfl
  obtain ⟨late, final, finishes, left, deadline, returned, capture⟩ :=
    exists_run_finish (c := { seen with
        child := .taken
        finished := some result
        deadline := some (seen.clock + drainBound) })
      rfl rfl rfl rfl after fun stream => by
        cases stream with
        | stdout => exact getD_map_of_getD_eq_append (owes .stdout)
        | stderr => exact getD_map_of_getD_eq_append (owes .stderr)
  exact ⟨_, late, seen, final, early, rfl, rfl, rfl,
    exits.run_cons (reaps.run_cons finishes), .of_deadline left deadline, returned,
    capture.trans List.foldl_append.symm⟩

theorem run_leave {c : Collection τ} (going : c.left = none) (empty : c.channel = [])
    (first : c.stdout = some []) (second : c.stderr = some []) :
    c.run [.close .stdout, .close .stderr, .hangUp] = some c.leave := by
  have closes : Moves c (.close .stdout) (c.setReader none .stdout) := .close first
  have closesToo : Moves (c.setReader none .stdout) (.close .stderr)
      ((c.setReader none .stdout).setReader none .stderr) := .close second
  have hangs : Moves ((c.setReader none .stdout).setReader none .stderr) .hangUp c.leave :=
    .hangUp going empty fun stream => by cases stream <;> rfl
  exact closes.run_cons (closesToo.run_cons (hangs.run_cons rfl))

/-- The turns of an arrival can all be made, and they collect all that arrives. -/
theorem run_turns (watched : Bool) (limit : Nat) (arrived : List Chunk) (result : τ) :
    let collection := ofArrival watched limit arrived result
    (start watched limit fun stream => some (sentOn stream arrived)).run
        (turns arrived result) = some collection ∧
      collection.LeftInTime ∧ collection.returned = some result ∧
      collection.capture = Capture.collect watched limit arrived := by
  let begun : Collection τ := start watched limit fun stream => some (sentOn stream arrived)
  have relays := run_relays (c := begun) rfl rfl arrived (fun _ => []) fun stream => by
    cases stream <;> exact (List.append_nil _).symm
  let relayed : Collection τ :=
    { begun with
      stdout := some []
      stderr := some []
      capture := Capture.collect watched limit arrived }
  let reaped : Collection τ :=
    { relayed with
      child := .taken
      finished := some result
      deadline := some (relayed.clock + drainBound) }
  let final : Collection τ := { reaped.leave with returned := some result }
  have exits : Moves relayed (.exit result) { relayed with child := .ended result } := .exit rfl
  have reaps : Moves { relayed with child := .ended result } .reap reaped := .reap rfl rfl rfl
  have leaves : reaped.run [.close .stdout, .close .stderr, .hangUp] = some reaped.leave :=
    run_leave rfl rfl rfl rfl
  have answers : Moves reaped.leave .answer final := .answer rfl rfl rfl
  have made : begun.run (turns arrived result) = some final :=
    run_trans relays
      (exits.run_cons (reaps.run_cons (run_trans leaves (answers.run_cons rfl))))
  have same : ofArrival watched limit arrived result = final :=
    congrArg (fun ran => ran.getD begun) made
  have timely : final.LeftInTime := .of_deadline rfl rfl
  dsimp only
  rw [same]
  exact ⟨made, timely, rfl, rfl⟩

theorem work_start (watched : Bool) (limit : Nat)
    (pipes : Stream → Option (List (List UInt8))) :
    (start watched limit pipes : Collection τ).work ≤
      2 * (((pipes .stdout).getD []).length + ((pipes .stderr).getD []).length) + 6 := by
  have reader (pieces : Option (List (List UInt8))) :
      readerWork pieces ≤ 2 * (pieces.getD []).length + 1 := by
    cases pieces with
    | none => exact Nat.zero_le _
    | some pieces => exact Nat.le_refl _
  have first := reader (pipes .stdout)
  have second := reader (pipes .stderr)
  simp only [work, start, List.length_nil, Awaited.work, Option.isNone_none, Bool.toNat_true]
  omega

/-! ## What is collected -/

/--
However readers, child, clock and loop take turns, the child is never asked for a
result that was taken, the moves that advance are limited in number, and until the
result of the child is given back, once, there is one to be made.  What was received
is recorded, the beginning of an order of both pipes that keeps the order of each;
with another watcher, or with none, the same turns lead to the same buffer.  A loop
that is left before it is late has received both pipes whole.  If both have ended in
time, all that may be missing is in the channel, and nothing is unless the loop was
still there when the time was over.  And there is no order of the two pipes, and no
point in it at which the end of the child is seen, that does not come about.
-/
theorem run_collects (watched : Bool) (limit : Nat)
    (pipes : Stream → Option (List (List UInt8))) :
    let begun : Collection τ := start watched limit pipes
    let due := fun stream => (pipes stream).getD []
    (∀ made c, begun.run made = some c →
      c.misused = false ∧
      (∃ arrived rest, Interleaves due (arrived ++ rest) ∧
        c.capture = Capture.collect watched limit arrived ∧
        c.capture.Records watched limit (fun stream => sentOn stream arrived) arrived) ∧
      (∀ result, c.returned = some result →
        made.filterMap Move.exit? = [result] ∧ made.countP Move.isAnswer = 1) ∧
      made.countP Move.advances ≤ 2 * ((due .stdout).length + (due .stderr).length) + 6 ∧
      (c.returned = none → ∀ _result : τ,
        ∃ move, move.advances = true ∧ (c.step move).isSome) ∧
      ∀ other, ∃ same, (start other limit pipes).run made = some same ∧
        same.capture.buffer = c.capture.buffer ∧ same.returned = c.returned) ∧
    (∀ made c, begun.run made = some c → c.LeftInTime →
      ∃ arrived, Interleaves due arrived ∧
        c.capture = Capture.collect watched limit arrived ∧
        c.capture.Records watched limit due arrived) ∧
    (∀ made ended more c, begun.run made = some ended → ended.EndedInTime →
      ended.run more = some c →
      ∃ arrived, Interleaves due (arrived ++ c.channel) ∧
        c.capture = Capture.collect watched limit arrived ∧
        (c.channel = [] → c.capture.Records watched limit due arrived) ∧
        ∀ moment, c.left = some moment → c.channel = [] ∨
          ∃ bound, c.deadline = some bound ∧ ended.clock < bound ∧ bound ≤ moment) ∧
    (∀ before after, Interleaves due (before ++ after) → ∀ result,
      ∃ early late seen final,
        begun.run early = some seen ∧
        seen.left = none ∧ seen.finished = none ∧
        seen.capture = Capture.collect watched limit before ∧
        seen.run (.exit result :: .reap :: late) = some final ∧
        final.LeftInTime ∧ final.returned = some result ∧
        final.capture = Capture.collect watched limit (before ++ after)) := by
  intro begun due
  refine ⟨fun made c ran => ?always, fun made c ran timely => ?whole,
    fun made ended more c ran timely further => ?drained,
    fun before after interleaves => exists_run watched limit pipes interleaves⟩
  case always =>
    have after := after_of_run ran
    obtain ⟨arrived, delivers⟩ := exists_delivers ran
    obtain ⟨rest, interleaves⟩ := delivers.within
    refine ⟨after.proper, ⟨arrived, rest, interleaves, delivers.captured, ?_⟩,
      fun result returned => after.awaits.of_returned returned, ?_, ?_, fun other => ?_⟩
    · rw [delivers.captured]
      exact Capture.collect_records watched limit fun _ => rfl
    · have spent := Nat.le_trans (Nat.le_add_left _ c.work) after.work
      exact Nat.le_trans spent (work_start watched limit pipes)
    · intro unanswered result
      obtain ⟨move, d, advances, moves⟩ := after.awaits.exists_moves unanswered result
      exact ⟨move, advances, Option.isSome_iff_exists.mpr ⟨d, moves.step_eq⟩⟩
    · obtain ⟨further, same⟩ := exists_run_shownTo ran other []
      exact ⟨_, same, rfl, rfl⟩
  case whole =>
    obtain ⟨arrived, delivers⟩ := exists_delivers ran
    have interleaves := delivers.interleaves timely
    refine ⟨arrived, interleaves, delivers.captured, ?_⟩
    rw [delivers.captured]
    exact Capture.collect_records watched limit interleaves
  case drained =>
    obtain ⟨before, delivers⟩ := exists_delivers ran
    obtain ⟨more, drains⟩ := (delivers.drains timely).run further
    refine ⟨before ++ more, drains.whole, drains.captured, fun empty => ?_,
      fun moment left => ?_⟩
    · have whole := drains.whole
      rw [empty, List.append_nil] at whole
      rw [drains.captured]
      exact Capture.collect_records watched limit whole
    · rcases drains.left moment left with empty | ⟨bound, set, late⟩
      · exact .inl empty
      · exact .inr ⟨bound, set, drains.early bound set, late⟩

def greeting : Stream → Option (List (List UInt8))
  | .stdout => some [[0x68, 0x0A], [0x69]]
  | .stderr => some [[0x21, 0x0A]]

/-- The child ends with zero while two chunks are on their way or yet to be sent. -/
def greetingMoves : List (Move Nat) :=
  [.send .stderr, .send .stdout, .receive, .exit 0, .close .stderr, .reap, .pass 1000,
    .send .stdout, .close .stdout]

def greetingTaken : List (Move Nat) :=
  [.receive, .receive, .hangUp, .answer]

/-- The loop does not come round until the time for the pipes is over. -/
def greetingLate : List (Move Nat) :=
  [.pass drainBound, .expire, .answer]

theorem greeting_ends : ∃ ended,
    (start true 3 greeting).run greetingMoves = some ended ∧ ended.EndedInTime := by
  refine ⟨_, rfl, rfl, fun stream => by cases stream <;> rfl, fun bound set => ?_⟩
  rw [← Option.some.inj set]
  decide

/-- Chunks that come after the child has ended are shown and counted all the same. -/
theorem greeting_collected :
    ∃ final, (start true 3 greeting).run (greetingMoves ++ greetingTaken) = some final ∧
      final.LeftInTime ∧ final.returned = some 0 ∧
      (greetingMoves ++ greetingTaken).countP Move.isAnswer = 1 ∧ final.channel = [] ∧
      final.capture.lines.length = 3 ∧ final.capture.buffer.bytes.size = 3 ∧
      final.capture.buffer.truncated = true := by
  obtain ⟨ended, begins, ends⟩ := greeting_ends
  obtain ⟨final, ran⟩ :
      ∃ final, (start true 3 greeting).run (greetingMoves ++ greetingTaken) = some final :=
    Option.isSome_iff_exists.mp (by decide +kernel)
  have fields : ((start true 3 greeting).run (greetingMoves ++ greetingTaken)).map
      (fun c => (c.returned, c.left, c.deadline)) =
        some (some 0, some 1000, some drainBound) := by
    decide +kernel
  rw [ran, Option.map_some, Option.some.injEq, Prod.mk.injEq, Prod.mk.injEq] at fields
  obtain ⟨returned, left, deadline⟩ := fields
  have timely : final.LeftInTime := by
    refine ⟨1000, left, fun bound set => ?_⟩
    rw [← Option.some.inj (deadline.symm.trans set)]
    decide
  have further : ended.run greetingTaken = some final := by
    rw [← ran, run_append, begins, Option.bind_some]
  obtain ⟨always, whole, drained, -⟩ := run_collects (τ := Nat) true 3 greeting
  obtain ⟨arrived, -, -, records⟩ := whole _ final ran timely
  obtain ⟨before, -, -, -, missing⟩ := drained _ ended _ final begins ends further
  have taken : final.channel = [] := by
    rcases missing 1000 left with empty | ⟨bound, set, -, late⟩
    · exact empty
    · rw [← Option.some.inj (deadline.symm.trans set)] at late
      exact absurd late (by decide)
  exact ⟨final, ran, timely, returned, ((always _ final ran).2.2.1 0 returned).2, taken,
    records.count rfl, records.size, records.truncated.mpr (by decide)⟩

/--
Both pipes end in time, with chunks in the channel that a loop which is left late
has not received: that the pipes end in time is not enough for all to arrive.
-/
theorem late_loop_loses :
    ¬ ∀ (watched : Bool) (limit : Nat) (pipes : Stream → Option (List (List UInt8)))
      (made more : List (Move Nat)) (ended c : Collection Nat) (result : Nat),
      (start watched limit pipes).run made = some ended → ended.EndedInTime →
      ended.run more = some c → c.returned = some result →
      ∃ arrived, Interleaves (fun stream => (pipes stream).getD []) arrived ∧
        c.capture = Capture.collect watched limit arrived := by
  intro whole
  obtain ⟨ended, begins, ends⟩ := greeting_ends
  have fields : ((start true 3 greeting).run (greetingMoves ++ greetingLate)).map
      (fun c => (c.returned, c.capture.lines.length)) = some (some 0, 1) := by
    decide +kernel
  rw [run_append, begins, Option.bind_some] at fields
  obtain ⟨c, ran, same⟩ := Option.map_eq_some_iff.mp fields
  obtain ⟨returned, shown⟩ := Prod.mk.inj same
  obtain ⟨arrived, interleaves, collected⟩ :=
    whole true 3 greeting greetingMoves greetingLate ended c 0 begins ends ran returned
  have all := (Capture.collect_records true 3 interleaves).count rfl
  rw [← collected, shown] at all
  exact absurd all (by decide)

end Collection

/--
What a request is answered with was collected by such a loop from the chunks of both
pipes, with the end of the child seen after the last of them.
-/
theorem Request.answer_collected (request : Request) (watched : Bool) (trigger : Trigger)
    (machine : Machine) (life : Life) (failure : Option Failure) :
    let pipes stream := some (chunks (Life.readsOf life.writes stream))
    let reply := request.answer watched trigger machine life failure
    ∃ final : Collection Ending,
      (Collection.start watched request.maxOutputBytes pipes).run
        (Collection.turns life.chunks life.ending) = some final ∧
      final.LeftInTime ∧ final.returned = some life.ending ∧
      final.capture = Capture.collect watched request.maxOutputBytes life.chunks ∧
      reply.output = final.capture.buffer.finish ∧
      reply.truncated = final.capture.buffer.truncated ∧
      reply.lines = final.capture.lines := by
  intro pipes reply
  obtain ⟨made, timely, returned, capture⟩ :=
    Collection.run_turns watched request.maxOutputBytes life.chunks life.ending
  have same : (fun stream => some (sentOn stream life.chunks)) = pipes :=
    funext fun stream => congrArg some (life.interleaves_chunks stream)
  exact ⟨_, same ▸ made, timely, returned, capture, rfl, rfl, rfl⟩

end PlanGuard
