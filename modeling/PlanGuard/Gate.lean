import PlanGuard.Plan
import PlanGuard.Text.Blank
import PlanGuard.Text.Quoted

/-!
# The gate

Before a plan is run, every command passes the same checks in the same order:
it names a program, its arguments are neither blank nor broken by a NUL, the
program holds nothing that a shell would interpret, no deny pattern matches the
command line, and, where there are allow patterns, one of them matches.  The
first objection to the first objectionable command is the verdict.

What a pattern matches is not decided here: a `Pattern` carries its own test.
-/

namespace PlanGuard

/-- A compiled pattern: its source and the command lines that it matches. -/
structure Pattern where
  source : String
  accepts : String → Bool

inductive Objection where
  | emptyCommand
  | emptyArgument (position : Nat)
  | nulByte (position : Nat)
  | shellMetacharacter (program : String)
  | denied (command pattern : String)
  | notAllowed (command : String)
  deriving DecidableEq

/-- An objection to the command at a position of a plan. -/
structure Violation where
  index : Nat
  objection : Objection
  deriving DecidableEq

namespace Violation

/-- The violation in words; commands and arguments are counted from one. -/
def message (violation : Violation) : String :=
  let command := s!"command {violation.index + 1}"
  match violation.objection with
  | .emptyCommand => command ++ " is empty"
  | .emptyArgument position => s!"{command}: argument {position + 1} is empty"
  | .nulByte position =>
      s!"{command}: argument {position + 1} contains a NUL byte"
  | .shellMetacharacter program =>
      s!"{command}: executable {Text.quoted program} contains shell metacharacters"
  | .denied line _ => s!"{command} blocked by denylist: {line}"
  | .notAllowed line => s!"{command} not permitted by allowlist: {line}"

end Violation

structure Gate where
  allow : List Pattern := []
  deny : List Pattern := []

namespace Gate

/-- The gate of two lists of sources; sources that do not compile are dropped. -/
def ofSources (compile : String → Option Pattern) (allow deny : List String) :
    Gate :=
  { allow := allow.filterMap compile, deny := deny.filterMap compile }

/-- The characters that a shell would interpret in the name of a program. -/
def isShellMetacharacter (c : Char) : Bool :=
  "|&;<>`$".toList.contains c

def hasNul (argument : String) : Bool :=
  argument.toList.contains '\x00'

/-- The first objection to the arguments from `position` on. -/
def argumentObjection? : (position : Nat) → List String → Option Objection
  | _, [] => none
  | position, argument :: rest =>
      if Text.allBlank argument then some (.emptyArgument position)
      else if hasNul argument then some (.nulByte position)
      else argumentObjection? (position + 1) rest

/-- The objection to the name of the program. -/
def programObjection? (program : String) : Option Objection :=
  if program.toList.any isShellMetacharacter then
    some (.shellMetacharacter program)
  else none

/-- The objection of the patterns to a command line; deny is asked first. -/
def patternObjection? (gate : Gate) (line : String) : Option Objection :=
  match gate.deny.find? (·.accepts line) with
  | some pattern => some (.denied line pattern.source)
  | none =>
      if gate.allow.isEmpty || gate.allow.any (·.accepts line) then none
      else some (.notAllowed line)

def objection? (gate : Gate) (command : Command) : Option Objection :=
  match command.argv with
  | [] => some .emptyCommand
  | program :: rest =>
      (argumentObjection? 0 (program :: rest)).or
        ((programObjection? program).or (gate.patternObjection? command.render))

/-- The first violation among commands whose positions start at `index`. -/
def violationFrom? (gate : Gate) : (index : Nat) → List Command → Option Violation
  | _, [] => none
  | index, command :: rest =>
      match gate.objection? command with
      | some objection => some ⟨index, objection⟩
      | none => gate.violationFrom? (index + 1) rest

/-- The first violation of a plan; `none` if the plan may run. -/
def violation? (gate : Gate) (plan : Plan) : Option Violation :=
  gate.violationFrom? 0 plan.commands

end Gate

end PlanGuard
