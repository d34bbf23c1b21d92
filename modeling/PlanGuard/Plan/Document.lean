import PlanGuard.Plan
import PlanGuard.Json.Document
import PlanGuard.Json.Decode

/-!
# Plans as documents

The JSON form of a plan.  Parts that are absent or empty are left out when a
plan is written, and every part may be missing when one is read.
-/

namespace PlanGuard

open Json

namespace Command

def toJson (command : Command) : Json :=
  .object (("command", texts command.argv) ::
    (optionally "description" (command.description.map .text) ++
      [("needs_root", .bool command.needsRoot)]))

def fields : List (Field Node Fault Command) :=
  [⟨"command", fun node command => do
      return { command with argv := ← Decode.list Decode.text node }⟩,
    ⟨"description", fun node command => do
      return { command with description := ← Decode.optional Decode.text node }⟩,
    ⟨"needs_root", fun node command => do
      return { command with needsRoot := ← Decode.bool node }⟩]

def decode : Decoder Command :=
  Decode.record fields {}

end Command

namespace Plan

def toJson (plan : Plan) : Json :=
  .object (optionally "summary" (plan.summary.map .text) ++
    ("commands", .array (plan.commands.map Command.toJson)) ::
      optionally "warnings"
        (if plan.warnings.isEmpty then none else some (texts plan.warnings)))

def fields : List (Field Node Fault Plan) :=
  [⟨"summary", fun node plan => do
      return { plan with summary := ← Decode.optional Decode.text node }⟩,
    ⟨"commands", fun node plan => do
      return { plan with commands := ← Decode.list Command.decode node }⟩,
    ⟨"warnings", fun node plan => do
      return { plan with warnings := ← Decode.list Decode.text node }⟩]

def decode : Decoder Plan :=
  Decode.record fields {}

/-- The plan that a text describes, or the first fault in the text. -/
def parse (text : String) : Except Fault Plan :=
  decodeText decode text

def print (plan : Plan) : String :=
  plan.toJson.compact

end Plan

end PlanGuard
