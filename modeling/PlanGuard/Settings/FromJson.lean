import PlanGuard.Json.Decode
import PlanGuard.Settings.Tree

/-!
# Settings from JSON

A JSON document reads as a tree of settings: whole numbers of 64 bits with a
sign are kept as such, all others become doubles.
-/

namespace PlanGuard

open Json (Node Numeral)

namespace Setting

/-- The setting of a number, unless it is too large even for a double. -/
def ofNumeral? : Numeral → Option Setting
  | .natural n =>
      if n < 9223372036854775808 then some (.integer n)
      else some (.real (Number.Format.double.ofNat n))
  | .negative n => some (.integer (-n))
  | .real value => some (.real value)
  | .outOfRange => none

mutual

/-- The setting of a tree that was read without a fault, to a depth. -/
def ofNode? : (depth : Nat) → Node → Option Setting
  | _, .null => some .absent
  | _, .bool value => some (.flag value)
  | _, .number literal => ofNumeral? (Numeral.ofLiteral literal)
  | _, .text content => content.map .text
  | depth + 1, .array items .closed => (ofItems? depth items).map .list
  | depth + 1, .object members .closed => (ofMembers? depth members).map .table
  | _, _ => none

def ofItems? : (depth : Nat) → List Node → Option (List Setting)
  | _, [] => some []
  | depth, item :: rest =>
      match ofNode? depth item, ofItems? depth rest with
      | some setting, some others => some (setting :: others)
      | _, _ => none

def ofMembers? : (depth : Nat) → List (Option String × Node) →
    Option (List (String × Setting))
  | _, [] => some []
  | depth, (name, value) :: rest =>
      match name, ofNode? depth value, ofMembers? depth rest with
      | some name, some setting, some others => some ((name, setting) :: others)
      | _, _, _ => none

end

def maxJsonDepth : Nat := 127

/-- The settings of a JSON document; `none` if it is not one object. -/
def ofJson? (text : String) : Option (List (String × Setting)) :=
  let reading := Json.read text
  if reading.trailing.isSome then none
  else
    match ofNode? maxJsonDepth reading.root with
    | some (.table members) => some members
    | _ => none

end Setting

end PlanGuard
