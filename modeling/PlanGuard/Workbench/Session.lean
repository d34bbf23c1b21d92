import PlanGuard.Machine.Child

/-!
# Sessions on the workbench

The workbench runs children without a real system under it.  A `Session` holds
what all processes of one child share: the files, a clock that only the
processes move, and what has been written so far.  Time is spent, never waited
for; when the limit of the session is reached, everything in it ends.
-/

namespace PlanGuard.Workbench

inductive Outlet where
  | stream (stream : Stream)
  | file (place : List String)
  | pipe (number : Nat)
  | null
  deriving DecidableEq

inductive Halt where
  | exit (code : Nat)
  | signal (number : Nat)
  /-- The time of the session is over. -/
  | cut
  /-- A loop is left, or gone on with. -/
  | leaveLoop
  | nextRound
  deriving DecidableEq

/-- The number of the process that runs commands and reads what they write. -/
def watcher : Nat := 1

/-- The state of a shell, or of any other process that is one command only. -/
structure Shell where
  bindings : List (String × String) := []
  exported : List String := []
  /-- The place of the working directory. -/
  directory : List String := []
  stdout : Outlet := .stream .stdout
  stderr : Outlet := .stream .stderr
  /-- What the last command returned. -/
  status : Nat := 0
  name : String := "sh"
  arguments : List String := []
  pid : Nat := 2
  /-- The process that started this one. -/
  parent : Nat := watcher
  /-- The signals that have no effect. -/
  ignored : List Nat := []

structure Session where
  files : FileTree
  /-- The time of the start in nanoseconds since 1970. -/
  start : Int
  /-- Nanoseconds since the start. -/
  moment : Nat := 0
  limit : Nat
  /-- The clock of those who wait stands still. -/
  frozen : Bool := false
  /-- What was written to the pipes of the child, newest first. -/
  writes : List Write := []
  /-- What can still be read from standard input. -/
  stdin : List UInt8 := []
  /-- What was written to the pipes between processes, newest first. -/
  pipes : List (Nat × List (List UInt8)) := []
  /-- When the commands in the background have ended. -/
  jobs : List Nat := []
  /-- When the process that reads the output was stopped, or went on, newest first. -/
  holds : List (Nat × Bool) := []
  shell : Shell
  nextNumber : Nat := 3

abbrev Act := ExceptT Halt (StateM Session)

namespace Act

def exhaust {α : Type} : Act α := do
  modify fun session => { session with moment := session.limit }
  throw .cut

def spend (nanos : Nat) : Act Unit := do
  let session ← get
  if session.limit < session.moment + nanos then exhaust
  else set { session with moment := session.moment + nanos }

/-- Waits; where the clock stands still, that has no end. -/
def wait (nanos : Nat) : Act Unit := do
  if (← get).frozen then exhaust else spend nanos

def now : Act Int := do
  let session ← get
  pure (session.start + session.moment)

/-- Changes the files, or tells why that is refused. -/
def changeFiles (change : Int → FileTree → Except SystemError FileTree) :
    Act (Option SystemError) := do
  let session ← get
  match change (session.start + session.moment) session.files with
  | .error error => pure (some error)
  | .ok files => set { session with files }; pure none

def emit (outlet : Outlet) (bytes : List UInt8) : Act Unit := do
  if bytes.isEmpty then return
  match outlet with
  | .null => pure ()
  | .stream stream =>
      modify fun session =>
        { session with writes := ⟨session.moment, stream, bytes⟩ :: session.writes }
  | .pipe number =>
      modify fun session =>
        { session with pipes := session.pipes.map fun pipe =>
            if pipe.1 = number then (number, bytes :: pipe.2) else pipe }
  | .file place =>
      let _ ← changeFiles fun now files => do
        let content ← files.read place
        files.write now place (content ++ bytes)

def fresh : Act Nat := do
  let session ← get
  set { session with nextNumber := session.nextNumber + 1 }
  pure session.nextNumber

def shell : Act Shell := do
  return (← get).shell

def changeShell (change : Shell → Shell) : Act Unit :=
  modify fun session => { session with shell := change session.shell }

def say (text : String) : Act Unit := do
  emit (← shell).stdout (Text.Utf8.encode text)

def complain (text : String) : Act Unit := do
  emit (← shell).stderr (Text.Utf8.encode (text ++ "\n"))

def place (path : String) : Act (Except SystemError (List String)) := do
  let session ← get
  pure (session.files.resolve session.shell.directory path)

def find (path : String) : Act (Except SystemError FileTree) := do
  let session ← get
  pure do
    session.files.find (← session.files.resolve session.shell.directory path)

def takeInput : Act (List UInt8) := do
  let session ← get
  set { session with stdin := [] }
  pure session.stdin

end Act

end PlanGuard.Workbench
