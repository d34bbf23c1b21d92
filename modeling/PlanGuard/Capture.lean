import PlanGuard.Text.Utf8

/-!
# Captured output

What a command prints arrives in chunks from two pipes.  A `Buffer` keeps the
first bytes of everything, up to a limit; a `Splitter` cuts the bytes of one
pipe into lines for whoever watches; `collect` does both for the chunks in the
order of their arrival.
-/

namespace PlanGuard

inductive Stream where
  | stdout
  | stderr
  deriving DecidableEq

structure Line where
  stream : Stream
  text : String
  deriving DecidableEq

/-- The first `limit` bytes of what was pushed, and whether there was more. -/
structure Buffer where
  limit : Nat
  bytes : Array UInt8 := #[]
  truncated : Bool := false

namespace Buffer

/-- Shown at the end of an output that was cut. -/
def marker : String := "\n... [output truncated] ..."

def push (buffer : Buffer) (chunk : List UInt8) : Buffer :=
  let room := buffer.limit - buffer.bytes.size
  { buffer with
    bytes := buffer.bytes ++ chunk.take room
    truncated := buffer.truncated || room < chunk.length }

/--
The text of the buffer.  Bytes that are not UTF-8 can make the text longer than
the bytes; a text that is marked as cut is held to the limit.
-/
def finish (buffer : Buffer) : String :=
  let text := Text.Utf8.decode buffer.bytes.toList
  if buffer.truncated then Text.Utf8.clip buffer.limit text ++ marker else text

end Buffer

def maxLineBytes : Nat := 65536

/-- The bytes of one pipe that have not made a line yet, newest first. -/
structure Splitter where
  pending : List UInt8 := []
  size : Nat := 0
  /-- The complete chunks, newest first. -/
  done : List (List UInt8) := []

namespace Splitter

def flush (splitter : Splitter) : Splitter :=
  { pending := [], size := 0, done := splitter.pending.reverse :: splitter.done }

/-- One byte; a newline ends a chunk, and so does the greatest size. -/
def step (splitter : Splitter) (byte : UInt8) : Splitter :=
  let grown : Splitter :=
    { splitter with pending := byte :: splitter.pending, size := splitter.size + 1 }
  if byte = 10 || grown.size = maxLineBytes then grown.flush else grown

def feed (splitter : Splitter) (read : List UInt8) : Splitter :=
  read.foldl step splitter

def close (splitter : Splitter) : List (List UInt8) :=
  let last := if splitter.pending.isEmpty then splitter else splitter.flush
  last.done.reverse

end Splitter

/-- The chunks of a pipe, however its bytes were cut into reads. -/
def chunks (reads : List (List UInt8)) : List (List UInt8) :=
  (reads.foldl Splitter.feed {}).close

structure Chunk where
  stream : Stream
  bytes : List UInt8
  deriving DecidableEq

/-- Drops newlines and carriage returns at the end. -/
def stripEnd (bytes : List UInt8) : List UInt8 :=
  (bytes.reverse.dropWhile fun byte => byte == 10 || byte == 13).reverse

namespace Chunk

def line (chunk : Chunk) : Line :=
  { stream := chunk.stream, text := Text.Utf8.decode (stripEnd chunk.bytes) }

end Chunk

/-- The chunks of one pipe among others, in their order. -/
def sentOn (stream : Stream) (arrived : List Chunk) : List (List UInt8) :=
  (arrived.filter fun chunk => chunk.stream = stream).map Chunk.bytes

/-- Output as it is collected: the buffer and the lines shown so far. -/
structure Capture where
  buffer : Buffer
  /-- The lines shown, newest first. -/
  shown : List Line := []

namespace Capture

/-- A chunk goes to the buffer and, if anybody watches, to the watcher. -/
def receive (watched : Bool) (capture : Capture) (chunk : Chunk) : Capture :=
  { buffer := capture.buffer.push chunk.bytes
    shown := if watched then chunk.line :: capture.shown else capture.shown }

def lines (capture : Capture) : List Line :=
  capture.shown.reverse

def collect (watched : Bool) (limit : Nat) (arrived : List Chunk) : Capture :=
  arrived.foldl (receive watched) { buffer := { limit } }

end Capture

/-- Writes of a process, in order, as chunks in the order of their arrival. -/
structure Pipes where
  stdout : Splitter := {}
  stderr : Splitter := {}
  /-- The chunks that have arrived, newest first. -/
  arrived : List Chunk := []

namespace Pipes

def splitter (pipes : Pipes) : Stream → Splitter
  | .stdout => pipes.stdout
  | .stderr => pipes.stderr

def setSplitter (pipes : Pipes) (splitter : Splitter) : Stream → Pipes
  | .stdout => { pipes with stdout := splitter }
  | .stderr => { pipes with stderr := splitter }

/-- Moves the complete chunks of one pipe to those that have arrived. -/
def deliver (pipes : Pipes) (stream : Stream) (splitter : Splitter) : Pipes :=
  let ready := splitter.done.map fun bytes => { stream, bytes : Chunk }
  { pipes.setSplitter { splitter with done := [] } stream with
    arrived := ready ++ pipes.arrived }

def write (pipes : Pipes) (stream : Stream) (bytes : List UInt8) : Pipes :=
  pipes.deliver stream ((pipes.splitter stream).feed bytes)

def close (pipes : Pipes) : List Chunk :=
  let rest (stream : Stream) : List Chunk :=
    (pipes.splitter stream).close.map fun bytes => { stream, bytes : Chunk }
  pipes.arrived.reverse ++ rest .stdout ++ rest .stderr

end Pipes

end PlanGuard
