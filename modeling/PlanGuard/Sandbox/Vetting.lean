import PlanGuard.Argv
import PlanGuard.Text.Quoted

/-!
# Vetting for the sandbox

A sandboxed command may not even mention certain sequences: those that chain or
substitute commands in a shell, and those that lead out of the scratch
directory.  They are refused wherever they stand in an argument.
-/

namespace PlanGuard.Sandbox

/-- The refused sequences, in the order in which they are looked for. -/
def forbidden : List String :=
  ["&&", "|", "`", "$(", "../", "/dev/", "/proc/", "/sys/"]

/-- The letters occur somewhere as one piece. -/
def occursIn (letters : List Char) : List Char → Bool
  | [] => letters.isEmpty
  | c :: rest => letters.isPrefixOf (c :: rest) || occursIn letters rest

def mentions (argument sequence : String) : Bool :=
  occursIn sequence.toList argument.toList

inductive Refusal where
  | emptyCommand
  | forbidden (argument sequence : String)
  deriving DecidableEq

namespace Refusal

def reason : Refusal → String
  | .emptyCommand => "empty command"
  | .forbidden argument sequence =>
      "argument " ++ Text.quoted argument ++ " contains forbidden sequence " ++
        Text.quoted sequence

/-- A refusal where it is reported on its own, from its reason. -/
def report (reason : String) : String :=
  "sandbox validation failed: " ++ reason

def message (refusal : Refusal) : String :=
  report refusal.reason

end Refusal

def firstMention? : List String → Option Refusal
  | [] => none
  | argument :: rest =>
      match forbidden.find? (mentions argument) with
      | some sequence => some (.forbidden argument sequence)
      | none => firstMention? rest

/-- Why a command is refused; `none` if it may run in the sandbox. -/
def refusal? (argv : Argv) : Option Refusal :=
  if argv.isEmpty then some .emptyCommand else firstMention? argv

end PlanGuard.Sandbox
