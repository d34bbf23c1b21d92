import PlanGuard.Capture
import PlanGuard.Json.Document

/-!
# Where shown lines go

A writer shows each line as text, with a mark before the lines of standard
error, and flushes after every line that could be written.  A line that cannot
be written is lost without further notice.
-/

namespace PlanGuard

def Stream.name : Stream → String
  | .stdout => "stdout"
  | .stderr => "stderr"

namespace Line

def written (line : Line) : String :=
  match line.stream with
  | .stdout => line.text ++ "\n"
  | .stderr => "stderr: " ++ line.text ++ "\n"

def toJson (line : Line) : Json :=
  .object [("stream", .text line.stream.name), ("text", .text line.text)]

end Line

/-- What a writer has received; `broken` if it refuses everything. -/
structure Writer where
  broken : Bool := false
  written : String := ""
  flushes : Nat := 0

namespace Writer

def line (writer : Writer) (line : Line) : Writer :=
  if writer.broken then writer
  else { writer with
    written := writer.written ++ line.written, flushes := writer.flushes + 1 }

def lines (writer : Writer) (lines : List Line) : Writer :=
  lines.foldl line writer

end Writer

/-- A channel's receiver keeps the lines sent while it was open. -/
def received (closed : Bool) (lines : List Line) : List Line :=
  if closed then [] else lines

end PlanGuard
