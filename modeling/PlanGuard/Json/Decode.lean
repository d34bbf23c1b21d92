import PlanGuard.Json.Reading
import PlanGuard.Json.Numeral
import PlanGuard.Record

/-!
# Values out of a reading

A decoder takes a value of a wanted kind out of a tree and meets the faults of
the tree in the order of the text.  A record may be written as an object of its
fields, in any order and with other members among them, or as an array of its
fields in order; a field that is not written keeps its default.
-/

namespace PlanGuard.Json

abbrev Decoder (α : Type) := Node → Except Fault α

namespace Node

mutual

/-- The fault met when a value is passed over. -/
def passedFault? : Node → Option Fault
  | .null | .bool _ | .number _ | .text _ => none
  | .broken stop => some stop.passed
  | .array items closing =>
      match itemsFault? items with
      | some fault => some fault
      | none => closingFault? closing
  | .object members closing =>
      match membersFault? members with
      | some fault => some fault
      | none => closingFault? closing

def itemsFault? : List Node → Option Fault
  | [] => none
  | item :: rest =>
      match passedFault? item with
      | some fault => some fault
      | none => itemsFault? rest

def membersFault? : List (Option String × Node) → Option Fault
  | [] => none
  | (_, value) :: rest =>
      match passedFault? value with
      | some fault => some fault
      | none => membersFault? rest

def closingFault? : Closing → Option Fault
  | .closed => none
  | .afterItem stop | .afterComma stop => some stop.passed

end

/-- The fault met when the value is of another kind than the wanted one. -/
def unsuited : Node → Fault
  | .null | .bool _ | .array _ _ | .object _ _ => .mismatch
  | .number literal =>
      match Numeral.ofLiteral literal with
      | .outOfRange => .malformed
      | _ => .mismatch
  | .text (some _) => .mismatch
  | .text none => .malformed
  | .broken stop => stop.kept

end Node

/-- The container ends here, or its text says why it does not. -/
def Closing.check : Closing → Except Fault Unit
  | .closed => .ok ()
  | .afterItem stop | .afterComma stop => .error stop.kept

namespace Decode

def bool : Decoder Bool
  | .bool value => .ok value
  | node => .error node.unsuited

def text : Decoder String
  | .text (some value) => .ok value
  | node => .error node.unsuited

def natural (bound : Nat) : Decoder Nat
  | .number literal =>
      match Numeral.ofLiteral literal with
      | .natural n => if n < bound then .ok n else .error .mismatch
      | .outOfRange => .error .malformed
      | _ => .error .mismatch
  | node => .error node.unsuited

def single : Decoder Number.Binary
  | .number literal =>
      match Numeral.ofLiteral literal with
      | .natural n => .ok (Number.Format.single.ofNat n)
      | .negative n => .ok (Number.Format.single.ofInt (-n))
      | .real value => .ok (Number.Format.single.convert value)
      | .outOfRange => .error .malformed
  | node => .error node.unsuited

/-- A value that may be absent; `null` says that it is. -/
def optional {α : Type} (decode : Decoder α) : Decoder (Option α)
  | .null => .ok none
  | node => (decode node).map some

def items {α : Type} (decode : Decoder α) : List Node → Except Fault (List α)
  | [] => .ok []
  | item :: rest => do
      let first ← decode item
      let others ← items decode rest
      return first :: others

def list {α : Type} (decode : Decoder α) : Decoder (List α)
  | .array nodes closing => do
      let values ← items decode nodes
      closing.check
      return values
  | node => .error node.unsuited

/-- The fields of a record, in order, from the items of an array. -/
def fieldItems {ρ : Type} :
    List (Field Node Fault ρ) → List Node → Closing → ρ → Except Fault ρ
  | _ :: _, [], closing, record => do
      closing.check
      return record
  | [], [], .closed, record => .ok record
  | [], [], .afterItem stop, _ => .error stop.kept
  | [], [], .afterComma _, _ => .error .malformed
  | [], _ :: _, _, _ => .error .malformed
  | field :: fields, item :: rest, closing, record => do
      let record ← field.put item record
      fieldItems fields rest closing record

/--
The fields of a record from the members of an object.  `seen` names the fields
already read; a field may be written once.
-/
def fieldMembers {ρ : Type} (fields : List (Field Node Fault ρ)) :
    (seen : List String) → List (Option String × Node) → ρ → Except Fault ρ
  | _, [], record => .ok record
  | _, (none, _) :: _, _ => .error .malformed
  | seen, (some name, value) :: rest, record =>
      match fields.find? (·.name == name) with
      | none =>
          match value.passedFault? with
          | some fault => .error fault
          | none => fieldMembers fields seen rest record
      | some field =>
          if seen.contains name then .error .mismatch
          else do
            let record ← field.put value record
            fieldMembers fields (name :: seen) rest record

/-- A record given its fields and its default. -/
def record {ρ : Type} (fields : List (Field Node Fault ρ)) (default : ρ) :
    Decoder ρ
  | .array nodes closing => fieldItems fields nodes closing default
  | .object members closing => do
      let value ← fieldMembers fields [] members default
      closing.check
      return value
  | node => .error node.unsuited

def insert {α : Type} (key : String) (value : α) :
    List (String × α) → List (String × α)
  | [] => [(key, value)]
  | (other, old) :: rest =>
      if other = key then (key, value) :: rest
      else (other, old) :: insert key value rest

/-- Members under arbitrary keys; the last of several under one key counts. -/
def tableMembers {α : Type} (decode : Decoder α) :
    List (Option String × Node) → List (String × α) →
      Except Fault (List (String × α))
  | [], table => .ok table
  | (none, _) :: _, _ => .error .malformed
  | (some key, node) :: rest, table => do
      let value ← decode node
      tableMembers decode rest (insert key value table)

def table {α : Type} (decode : Decoder α) : Decoder (List (String × α))
  | .object members closing => do
      let table ← tableMembers decode members []
      closing.check
      return table
  | node => .error node.unsuited

/-- JSON values as a source of records. -/
def source : Source Node Fault where
  flag := bool
  natural := natural
  single := single
  text := text
  texts := list text
  optional := optional
  record := record

end Decode

/-- Decodes a whole text: its value, and nothing after it. -/
def decodeText {α : Type} (decode : Decoder α) (text : String) :
    Except Fault α := do
  let reading := read text
  let value ← decode reading.root
  match reading.trailing with
  | some fault => throw fault
  | none => return value

end PlanGuard.Json
