import PlanGuard.Workbench.Shell.Run

/-!
# Launching children on the workbench

The workbench as a `Launch`: it starts the programs that a machine's files have,
lets them act on these, and tells when each wrote what.  `Workbench.files` are
the files that such a machine starts with.
-/

namespace PlanGuard.Workbench

def plain (entries : List (String × FileTree)) : FileTree :=
  .directory { modified := some 0, mode := 0o755 } entries

def programs : List (String × FileTree) :=
  ("sh", .program "sh") :: ("env", .program "env") ::
    Programs.table.map fun program => (program.1, .program program.1)

/-- A small system; `temporary` is what it has in its directory for such files. -/
def files (temporary : List (String × FileTree)) : FileTree :=
  let passwords := Text.Utf8.encode "root:x:0:0:root:/root:/bin/sh\n"
  plain
    [("bin", plain programs),
      ("dev", plain [("null", .device .null), ("zero", .device .zero)]),
      ("etc", plain [("passwd", .file { modified := some 0 } passwords)]),
      ("proc", plain []),
      ("sbin", plain []),
      ("sys", plain []),
      ("tmp", plain temporary),
      ("usr", plain
        [("bin", plain programs), ("local", plain [("bin", plain [])]),
          ("sbin", plain [])])]

/-- The nesting and the rounds of loops that are carried out. -/
def depth : Nat := 20000

/-- What every process of the workbench uses while it waits. -/
def usage : Usage :=
  { memoryBytes := 2097152, cpuPercent := Number.Format.single.ofNat 0 }

/-- How long output is still taken after a child has ended, in nanoseconds. -/
def drain : Nat := 2000000000

/--
The first moment from this one on at which the process that reads the output is not
stopped, by when it was stopped and went on; this moment if it never goes on.
-/
def awake (moment : Nat) (stopped : Bool) : List (Nat × Bool) → Nat
  | [] => moment
  | (time, stops) :: rest =>
      if time ≤ moment then awake moment stops rest
      else if !stopped then moment
      else if stops then awake moment stopped rest
      else time

def startDirectory (child : Child) (machine : Machine) :
    Except SystemError (List String) := do
  match child.directory with
  | none => pure machine.directory
  | some path =>
      let place ← machine.resolve path
      let _ ← machine.files.entriesAt place
      pure place

def startImage (child : Child) (directory : List String) (machine : Machine) :
    Except SystemError FileTree := do
  let tree ←
    image machine.files directory (child.environment.lookup "PATH") child.program
  match tree with
  | .file _ content =>
      if (interpreter? content).isSome then pure tree else throw .badFormat
  | tree => pure tree

def hasNul (text : String) : Bool :=
  text.contains '\x00'

def isOversized (text : String) : Bool :=
  131072 ≤ text.utf8ByteSize

/--
Runs a child from its start to its end, or to the limit.  On a frozen workbench
nothing that waits ever gets on, so that every limit is reached.
-/
def launch (frozen : Bool) : Launch := fun reach limit child machine => do
  if (child.program :: child.arguments).any hasNul then throw .nulByte
  let directory ← startDirectory child machine
  if (child.program :: child.arguments).any isOversized then
    throw .argumentsTooLong
  let tree ← startImage child directory machine
  let argv := child.program :: child.arguments
  let start : Shell := { directory }
  let session : Session :=
    { files := machine.files, start := machine.now, limit, frozen, shell := start }
  let run := asProcess (start.ofEnvironment child.environment argv 2)
    (runImage depth tree argv)
  let (result, after) := run.run.run session
  let (ending, cut) :=
    match result with
    | .ok ending => (ending, false)
    | .error _ => (.killed 9, true)
  let holds := after.holds.reverse.mergeSort fun first second => first.1 ≤ second.1
  let span := awake after.moment false holds
  let last :=
    match reach with
    | .group => span
    | .leader => span + drain
  -- What is not read by then is lost, although it was written.
  let writes := (after.writes.reverse.mergeSort fun first second =>
    first.moment ≤ second.moment).filter fun write =>
      awake write.moment false holds ≤ last
  pure
    ({ writes, ending, span, cut, usage },
      { machine with files := after.files, now := machine.now + span })

end PlanGuard.Workbench
