import PlanGuard.Capture

/-!
# Collecting output while a child is waited for

Each pipe has a reader that sends its chunks into one channel, which holds so many
and no more.  A loop takes what comes: a chunk from the channel, the end of the
child, or, some time after that end, the news that the pipes are still open.  It is
left when both readers have ended and the channel is empty, or when that time is
over; then the result of the child is given back.

Readers, child, clock and loop go on side by side.  A `Collection` is the state of
them all, a `Move` is what one of them does next, and a list of moves is one of the
ways in which it can go.
-/

namespace PlanGuard

def channelCapacity : Nat := 64

/-- How long the pipes may stay open after the child has ended: two seconds. -/
def drainBound : Nat := 2000000000

/-- What the child will have to say when it has ended. -/
inductive Awaited (τ : Type) where
  | running
  | ended (result : τ)
  /-- The result was taken; to ask again is a fault of the program. -/
  | taken

structure Collection (τ : Type) where
  /-- Somebody watches the lines. -/
  watched : Bool
  /-- What the reader of a pipe has yet to send; `none` once it has ended. -/
  stdout : Option (List (List UInt8))
  stderr : Option (List (List UInt8))
  /-- The chunks that were sent and not received, oldest first. -/
  channel : List Chunk := []
  capture : Capture
  /-- In nanoseconds from the start. -/
  clock : Nat := 0
  child : Awaited τ := .running
  /-- The result of the child, once the loop has seen it. -/
  finished : Option τ := none
  /-- The moment from which on the loop no longer waits for the pipes. -/
  deadline : Option Nat := none
  /-- The moment at which the loop was left. -/
  left : Option Nat := none
  /-- What was given back. -/
  returned : Option τ := none
  /-- The child was asked for its result after that was taken. -/
  misused : Bool := false

inductive Move (τ : Type) where
  /-- A reader sends its next chunk. -/
  | send (stream : Stream)
  /-- A reader finds its pipe at its end. -/
  | close (stream : Stream)
  /-- The child ends. -/
  | exit (result : τ)
  | pass (span : Nat)
  /-- The loop takes a chunk. -/
  | receive
  /-- The loop is left as there will be no more chunks. -/
  | hangUp
  /-- The loop sees the end of the child. -/
  | reap
  /-- The loop is left as the time for the pipes is over. -/
  | expire
  /-- The result is given back. -/
  | answer

namespace Collection

variable {τ : Type}

/-- Nothing has happened yet; a pipe that is not there has no reader. -/
def start (watched : Bool) (limit : Nat) (pipes : Stream → Option (List (List UInt8))) :
    Collection τ :=
  { watched
    stdout := pipes .stdout
    stderr := pipes .stderr
    capture := { buffer := { limit } } }

def reader (collection : Collection τ) : Stream → Option (List (List UInt8))
  | .stdout => collection.stdout
  | .stderr => collection.stderr

def setReader (collection : Collection τ) (reader : Option (List (List UInt8))) :
    Stream → Collection τ
  | .stdout => { collection with stdout := reader }
  | .stderr => { collection with stderr := reader }

def leave (collection : Collection τ) : Collection τ :=
  { collection with stdout := none, stderr := none, left := some collection.clock }

/-- Asks the child for its result; `none` as long as it runs. -/
def ask (collection : Collection τ) (keep : τ → Collection τ → Collection τ) :
    Option (Collection τ) :=
  match collection.child with
  | .running => none
  | .ended result => some (keep result { collection with child := .taken })
  | .taken => some { collection with misused := true }

/-- One move; `none` if it cannot be made now. -/
def step (collection : Collection τ) : Move τ → Option (Collection τ)
  | .send stream =>
      match collection.reader stream with
      | some (bytes :: rest) =>
          if collection.channel.length < channelCapacity then
            let sent := { collection with
              channel := collection.channel ++ [({ stream, bytes } : Chunk)] }
            some (sent.setReader (some rest) stream)
          else none
      | _ => none
  | .close stream =>
      if collection.reader stream = some [] then
        some (collection.setReader none stream)
      else none
  | .exit result =>
      match collection.child with
      | .running => some { collection with child := .ended result }
      | _ => none
  | .pass span => some { collection with clock := collection.clock + span }
  | .receive =>
      match collection.left, collection.channel with
      | none, chunk :: rest =>
          some { collection with
            channel := rest
            capture := collection.capture.receive collection.watched chunk }
      | _, _ => none
  | .hangUp =>
      match collection.left, collection.channel, collection.stdout, collection.stderr with
      | none, [], none, none => some collection.leave
      | _, _, _, _ => none
  | .reap =>
      match collection.left, collection.finished with
      | none, none =>
          collection.ask fun result collection =>
            { collection with
              finished := some result
              deadline := some (collection.clock + drainBound) }
      | _, _ => none
  | .expire =>
      match collection.left, collection.deadline with
      | none, some bound =>
          if bound ≤ collection.clock then some collection.leave else none
      | _, _ => none
  | .answer =>
      match collection.left, collection.returned, collection.finished with
      | some _, none, some result => some { collection with returned := some result }
      | some _, none, none =>
          collection.ask fun result collection =>
            { collection with returned := some result }
      | _, _, _ => none

/-- The moves one after another; `none` if one of them cannot be made. -/
def run (collection : Collection τ) : List (Move τ) → Option (Collection τ)
  | [] => some collection
  | move :: moves => (collection.step move).bind fun next => next.run moves

/-! ## Chunks in the order of their arrival -/

/-- A chunk is sent and taken at once. -/
def relay (chunk : Chunk) : List (Move τ) :=
  [.send chunk.stream, .receive]

/-- Chunks arrive in this order, and the child ends when all are taken. -/
def turns (arrived : List Chunk) (result : τ) : List (Move τ) :=
  arrived.flatMap relay ++
    [.exit result, .reap, .close .stdout, .close .stderr, .hangUp, .answer]

/-- What is collected when chunks arrive in this order. -/
def ofArrival (watched : Bool) (limit : Nat) (arrived : List Chunk) (result : τ) :
    Collection τ :=
  let begun := start watched limit fun stream => some (sentOn stream arrived)
  (begun.run (turns arrived result)).getD begun

end Collection

end PlanGuard
