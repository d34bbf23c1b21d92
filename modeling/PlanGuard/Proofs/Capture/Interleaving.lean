import PlanGuard.Machine.Child
import PlanGuard.Proofs.Capture.Buffer
import Mathlib.Algebra.GroupWithZero.Nat

/-!
# Two pipes, one order of arrival

Chunks of two pipes arrive in one order, which keeps the order of each pipe.  What
is recorded of them in the end depends on that order only where it must: the lines
of one pipe, the number of bytes that are kept and whether there were more do not.
-/

namespace PlanGuard

@[simp] theorem sentOn_nil (stream : Stream) : sentOn stream [] = [] :=
  rfl

theorem sentOn_append (stream : Stream) (first second : List Chunk) :
    sentOn stream (first ++ second) = sentOn stream first ++ sentOn stream second := by
  unfold sentOn
  rw [List.filter_append, List.map_append]

theorem sentOn_reverse (stream : Stream) (arrived : List Chunk) :
    sentOn stream arrived.reverse = (sentOn stream arrived).reverse := by
  unfold sentOn
  rw [List.filter_reverse, List.map_reverse]

theorem sentOn_cons (stream : Stream) (chunk : Chunk) (arrived : List Chunk) :
    sentOn stream (chunk :: arrived) =
      if chunk.stream = stream then chunk.bytes :: sentOn stream arrived
      else sentOn stream arrived := by
  unfold sentOn
  rw [List.filter_cons]
  split
  next same => rw [if_pos (of_decide_eq_true same), List.map_cons]
  next other => rw [if_neg fun same => other (decide_eq_true same)]

theorem sentOn_map (stream other : Stream) (pieces : List (List UInt8)) :
    sentOn stream (pieces.map fun bytes => { stream := other, bytes : Chunk }) =
      if other = stream then pieces else [] := by
  induction pieces with
  | nil => rw [List.map_nil, sentOn_nil, ite_self]
  | cons bytes rest ih =>
      rw [List.map_cons, sentOn_cons, ih]
      split <;> rfl

/-- What is counted over all chunks is counted over those of each pipe. -/
theorem sum_sentOn (weigh : List UInt8 → Nat) (arrived : List Chunk) :
    (arrived.map fun chunk => weigh chunk.bytes).sum =
      ((sentOn .stdout arrived).map weigh).sum + ((sentOn .stderr arrived).map weigh).sum := by
  induction arrived with
  | nil => rfl
  | cons chunk rest ih =>
      rw [List.map_cons, List.sum_cons, ih, sentOn_cons, sentOn_cons]
      cases chunk.stream with
      | stdout =>
          rw [if_pos rfl, if_neg (by decide), List.map_cons, List.sum_cons, Nat.add_assoc]
      | stderr =>
          rw [if_neg (by decide), if_pos rfl, List.map_cons, List.sum_cons, Nat.add_left_comm]

theorem filter_lines (stream : Stream) (arrived : List Chunk) :
    ((arrived.map Chunk.line).filter fun line => line.stream = stream) =
      (sentOn stream arrived).map fun bytes => Chunk.line { stream, bytes } := by
  induction arrived with
  | nil => rfl
  | cons chunk rest ih =>
      rw [List.map_cons, List.filter_cons, ih, sentOn_cons]
      have tagged : chunk.line.stream = chunk.stream := rfl
      rw [tagged]
      split
      next same =>
        obtain rfl := of_decide_eq_true same
        rw [if_pos rfl, List.map_cons]
      next other => rw [if_neg fun same => other (decide_eq_true same)]

/-- The order keeps that of each pipe, with nothing lost and nothing added. -/
def Interleaves (pipes : Stream → List (List UInt8)) (arrived : List Chunk) : Prop :=
  ∀ stream, sentOn stream arrived = pipes stream

def pipedBytes (pipes : Stream → List (List UInt8)) : Nat :=
  (pipes .stdout).flatten.length + (pipes .stderr).flatten.length

namespace Interleaves

variable {pipes : Stream → List (List UInt8)} {arrived : List Chunk}

theorem length (interleaves : Interleaves pipes arrived) :
    arrived.length = (pipes .stdout).length + (pipes .stderr).length := by
  have counted := sum_sentOn (fun _ => 1) arrived
  rw [interleaves, interleaves] at counted
  simpa using counted

theorem length_flatten (interleaves : Interleaves pipes arrived) :
    (arrived.map Chunk.bytes).flatten.length = pipedBytes pipes := by
  have counted := sum_sentOn List.length arrived
  rw [interleaves, interleaves] at counted
  rw [pipedBytes, List.length_flatten, List.length_flatten, List.length_flatten, List.map_map]
  exact counted

end Interleaves

namespace Capture

theorem buffer_foldl_receive (watched : Bool) (arrived : List Chunk) (capture : Capture) :
    (arrived.foldl (receive watched) capture).buffer =
      (arrived.map Chunk.bytes).foldl Buffer.push capture.buffer := by
  induction arrived generalizing capture with
  | nil => rfl
  | cons chunk rest ih => rw [List.foldl_cons, ih, List.map_cons, List.foldl_cons, receive]

theorem lines_foldl_receive (watched : Bool) (arrived : List Chunk) (capture : Capture) :
    (arrived.foldl (receive watched) capture).lines =
      capture.lines ++ if watched then arrived.map Chunk.line else [] := by
  induction arrived generalizing capture with
  | nil => rw [List.map_nil, ite_self, List.append_nil, List.foldl_nil]
  | cons chunk rest ih =>
      rw [List.foldl_cons, ih]
      cases watched with
      | false => rfl
      | true =>
          unfold receive lines
          rw [if_pos rfl, if_pos rfl, if_pos rfl, List.reverse_cons, List.append_assoc,
            List.map_cons, List.singleton_append]

theorem buffer_collect (watched : Bool) (limit : Nat) (arrived : List Chunk) :
    (collect watched limit arrived).buffer =
      (arrived.map Chunk.bytes).foldl Buffer.push { limit } :=
  buffer_foldl_receive watched arrived _

theorem lines_collect (watched : Bool) (limit : Nat) (arrived : List Chunk) :
    (collect watched limit arrived).lines =
      if watched then arrived.map Chunk.line else [] :=
  lines_foldl_receive watched arrived _

theorem collect_append (watched : Bool) (limit : Nat) (arrived : List Chunk) (chunk : Chunk) :
    collect watched limit (arrived ++ [chunk]) =
      (collect watched limit arrived).receive watched chunk := by
  unfold collect
  rw [List.foldl_append, List.foldl_cons, List.foldl_nil]

/-- A capture of both pipes, whose chunks arrived in this order. -/
structure Records (capture : Capture) (watched : Bool) (limit : Nat)
    (pipes : Stream → List (List UInt8)) (arrived : List Chunk) : Prop where
  /-- Whoever watches is shown one line for each chunk, in the order of arrival. -/
  lines : capture.lines = if watched then arrived.map Chunk.line else []
  count : watched = true →
    capture.lines.length = (pipes .stdout).length + (pipes .stderr).length
  /-- The lines of one pipe are those of its chunks, in the order of the pipe. -/
  perStream : watched = true → ∀ stream,
    (capture.lines.filter fun line => line.stream = stream) =
      (pipes stream).map fun bytes => Chunk.line { stream, bytes }
  /-- The first bytes of all that arrived are kept. -/
  bytes : capture.buffer.bytes.toList = (arrived.map Chunk.bytes).flatten.take limit
  /-- How many are kept does not depend on the order of arrival. -/
  size : capture.buffer.bytes.size = min limit (pipedBytes pipes)
  truncated : capture.buffer.truncated = true ↔ limit < pipedBytes pipes
  /-- The buffer is the same whether anybody watches or not. -/
  unwatched : capture.buffer = (collect false limit arrived).buffer

theorem collect_records {pipes : Stream → List (List UInt8)} {arrived : List Chunk}
    (watched : Bool) (limit : Nat) (interleaves : Interleaves pipes arrived) :
    (collect watched limit arrived).Records watched limit pipes arrived := by
  have holds : (collect watched limit arrived).buffer.Holds
      (arrived.map Chunk.bytes).flatten := by
    rw [buffer_collect]
    exact (Buffer.holds_empty limit).foldl_push _
  have limited : (collect watched limit arrived).buffer.limit = limit := by
    rw [buffer_collect, Buffer.limit_foldl_push]
  have lines := lines_collect watched limit arrived
  refine ⟨lines, ?_, ?_, ?_, ?_, ?_, ?_⟩
  · intro watching
    rw [lines, if_pos watching, List.length_map, interleaves.length]
  · intro watching stream
    rw [lines, if_pos watching, filter_lines, interleaves]
  · rw [holds.bytes, limited]
  · rw [holds.size, limited, interleaves.length_flatten]
  · rw [holds.truncated, limited, interleaves.length_flatten]
  · rw [buffer_collect, buffer_collect]

end Capture

/-! ## The chunks of a life -/

namespace Splitter

def above (splitter : Splitter) (older : List (List UInt8)) : Splitter :=
  { splitter with done := splitter.done ++ older }

theorem step_above (splitter : Splitter) (older : List (List UInt8)) (byte : UInt8) :
    (splitter.above older).step byte = (splitter.step byte).above older := by
  unfold step above flush
  dsimp only
  split <;> rfl

theorem feed_above (splitter : Splitter) (older : List (List UInt8)) (read : List UInt8) :
    (splitter.above older).feed read = (splitter.feed read).above older := by
  unfold feed
  induction read generalizing splitter with
  | nil => rfl
  | cons byte rest ih => rw [List.foldl_cons, step_above, ih, List.foldl_cons]

theorem close_above (splitter : Splitter) (older : List (List UInt8)) :
    (splitter.above older).close = older.reverse ++ splitter.close := by
  unfold close above flush
  dsimp only
  split <;> simp

end Splitter

namespace Pipes

/-- What has arrived and what is pending on each pipe make up its reads. -/
def Follows (pipes : Pipes) (reads : Stream → List (List UInt8)) : Prop :=
  ∀ stream, (reads stream).foldl Splitter.feed {} =
    (pipes.splitter stream).above (sentOn stream pipes.arrived)

theorem splitter_setSplitter (pipes : Pipes) (splitter : Splitter) (stream other : Stream) :
    (pipes.setSplitter splitter stream).splitter other =
      if stream = other then splitter else pipes.splitter other := by
  cases stream <;> cases other <;> rfl

theorem sentOn_deliver (pipes : Pipes) (splitter : Splitter) (stream other : Stream) :
    sentOn other (pipes.deliver stream splitter).arrived =
      (if stream = other then splitter.done else []) ++ sentOn other pipes.arrived := by
  rw [deliver, sentOn_append, sentOn_map]

theorem splitter_deliver (pipes : Pipes) (splitter : Splitter) (stream other : Stream) :
    (pipes.deliver stream splitter).splitter other =
      if stream = other then { splitter with done := [] } else pipes.splitter other :=
  (by cases other <;> rfl : _ = (pipes.setSplitter _ stream).splitter other).trans
    (splitter_setSplitter pipes _ stream other)

theorem Follows.write {pipes : Pipes} {reads : Stream → List (List UInt8)}
    (follows : pipes.Follows reads) (stream : Stream) (bytes : List UInt8) :
    (pipes.write stream bytes).Follows fun other =>
      reads other ++ if stream = other then [bytes] else [] := by
  intro other
  rw [Pipes.write, splitter_deliver, sentOn_deliver, List.foldl_append, follows other]
  by_cases same : stream = other
  · subst same
    rw [if_pos rfl, if_pos rfl, if_pos rfl, List.foldl_cons, List.foldl_nil,
      Splitter.feed_above]
    rfl
  · rw [if_neg same, if_neg same, if_neg same, List.foldl_nil, List.nil_append]

theorem Follows.close {pipes : Pipes} {reads : Stream → List (List UInt8)}
    (follows : pipes.Follows reads) :
    Interleaves (fun stream => chunks (reads stream)) pipes.close := by
  intro stream
  dsimp only [chunks]
  rw [follows stream, Splitter.close_above, Pipes.close, sentOn_append, sentOn_append,
    sentOn_map, sentOn_map, sentOn_reverse]
  cases stream with
  | stdout => rw [if_pos rfl, if_neg (by decide), List.append_nil]
  | stderr => rw [if_neg (by decide), if_pos rfl, List.append_nil]

end Pipes

namespace Life

def readsOf (writes : List Write) (stream : Stream) : List (List UInt8) :=
  (writes.filter fun write => write.stream = stream).map Write.bytes

theorem readsOf_cons (write : Write) (rest : List Write) (stream : Stream) :
    readsOf (write :: rest) stream =
      (if write.stream = stream then [write.bytes] else []) ++ readsOf rest stream := by
  unfold readsOf
  rw [List.filter_cons]
  split
  next same => rw [if_pos (of_decide_eq_true same), List.map_cons, List.singleton_append]
  next other => rw [if_neg fun same => other (decide_eq_true same), List.nil_append]

theorem follows_foldl {pipes : Pipes} {reads : Stream → List (List UInt8)}
    (follows : pipes.Follows reads) (writes : List Write) :
    (writes.foldl (fun pipes write => pipes.write write.stream write.bytes) pipes).Follows
      fun stream => reads stream ++ readsOf writes stream := by
  induction writes generalizing pipes reads with
  | nil =>
      intro stream
      have none : reads stream ++ readsOf [] stream = reads stream := List.append_nil _
      dsimp only
      rw [none, List.foldl_nil, follows stream]
  | cons write rest ih =>
      intro stream
      have further := ih (follows.write write.stream write.bytes) stream
      dsimp only at further ⊢
      rw [readsOf_cons, ← List.append_assoc, further, List.foldl_cons]

/-- The chunks of a life are those of its two pipes, in one order of arrival. -/
theorem interleaves_chunks (life : Life) :
    Interleaves (fun stream => PlanGuard.chunks (readsOf life.writes stream)) life.chunks := by
  have blank : ({} : Pipes).Follows fun _ => [] := fun stream => by cases stream <;> rfl
  exact (follows_foldl blank life.writes).close

end Life

end PlanGuard
