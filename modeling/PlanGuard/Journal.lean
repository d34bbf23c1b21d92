import PlanGuard.Argv
import PlanGuard.Failure

/-!
# The journal of an execution

An `Entry` records one command that was run or turned away.  A `Journal` keeps
the entries of a plan in order, a running count of those that carry a failure,
and, apart from both, the audit trail of the fixes that were tried.  The count
is changed only by the operations below, in step with the entries.
-/

namespace PlanGuard

structure Entry where
  index : Nat := 0
  argv : Argv := []
  output : String := ""
  failure : Option Failure := none
  elapsed : Duration := .zero
  truncated : Bool := false
  startedAt : Timestamp := {}
  /-- For an audit entry, the position of the entry it was meant to fix. -/
  fixFor : Option Nat := none
  deriving DecidableEq

namespace Entry

/-- The entry of a command that failed before anything was started. -/
def rejected (index : Nat) (argv : Argv) (failure : Failure) : Entry :=
  { index, argv, failure := some failure }

def failed (entry : Entry) : Bool :=
  entry.failure.isSome

def succeeded (entry : Entry) : Bool :=
  entry.failure.isNone

def commandLine (entry : Entry) : String :=
  entry.argv.render

/-- The same entry, marked as an attempt to fix the entry at `position`. -/
def asFixFor (position : Nat) (entry : Entry) : Entry :=
  { entry with fixFor := some position }

end Entry

structure Journal where
  entries : List Entry := []
  audit : List Entry := []
  failed : Nat := 0
  deriving DecidableEq

namespace Journal

def empty : Journal := {}

def push (journal : Journal) (entry : Entry) : Journal :=
  { journal with
    entries := journal.entries ++ [entry]
    failed := journal.failed + entry.failed.toNat }

def ofEntries (entries : List Entry) : Journal :=
  entries.foldl push empty

def isSuccess (journal : Journal) : Bool :=
  journal.failed == 0

/-- The positions of the entries that carry a failure, counted from `start`. -/
def failingFrom : (start : Nat) → List Entry → List Nat
  | _, [] => []
  | start, entry :: rest =>
      if entry.failed then start :: failingFrom (start + 1) rest
      else failingFrom (start + 1) rest

def failing (journal : Journal) : List Nat :=
  failingFrom 0 journal.entries

def firstFailure? (journal : Journal) : Option Entry :=
  journal.entries.find? Entry.failed

/-- Clears the failure at a position, if there is one. -/
def markFixed (journal : Journal) (position : Nat) : Journal :=
  match journal.entries[position]? with
  | some entry =>
      if entry.failed then
        { journal with
          entries := journal.entries.set position { entry with failure := none }
          failed := journal.failed - 1 }
      else journal
  | none => journal

/-- Puts the output and failure of a fix that failed in place of an entry's own. -/
def recordFixFailure (journal : Journal) (position : Nat) (output : String)
    (failure : Failure) : Journal :=
  match journal.entries[position]? with
  | some entry =>
      { journal with
        entries := journal.entries.set position
          { entry with output, failure := some failure }
        failed := journal.failed + entry.succeeded.toNat }
  | none => journal

/-- Adds a fix's entries, then its own audit trail, to the audit trail. -/
def appendFixes (journal : Journal) (position : Nat) (fixes : Journal) : Journal :=
  { journal with
    audit := journal.audit ++
      (fixes.entries.map (Entry.asFixFor position) ++ fixes.audit) }

end Journal

end PlanGuard
