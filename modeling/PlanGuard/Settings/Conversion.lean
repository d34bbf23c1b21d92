import PlanGuard.Number.Text
import PlanGuard.Record
import PlanGuard.Settings.Tree

/-!
# Settings as values

A setting is taken for a value of the wanted kind wherever it can reasonably
stand for one: a text that spells a number is that number, a flag is one or
zero, a fraction is rounded.  Lists and tables stand for nothing but themselves.
-/

namespace PlanGuard

open Number (Binary Format)

/-- A setting cannot stand for the kind of value that is wanted. -/
structure Unsuitable where
  deriving DecidableEq

namespace Setting

def unsuitable {α : Type} : Except Unsuitable α :=
  .error {}

/-- Words for yes and no. -/
def yesOrNo? (text : String) : Option Bool :=
  match text.toLower with
  | "true" | "on" | "yes" => some true
  | "false" | "off" | "no" => some false
  | _ => none

def toFlag : Setting → Except Unsuitable Bool
  | .flag value => .ok value
  | .integer value => .ok (value != 0)
  | .real value => .ok !value.isZero
  | .text "1" => .ok true
  | .text "0" => .ok false
  | .text value =>
      match yesOrNo? value with
      | some answer => .ok answer
      | none => unsuitable
  | _ => unsuitable

def digits? (text : String) : Option Nat :=
  match Number.integer? text with
  | some n => if 0 ≤ n && !text.toList.contains '-' then some n.toNat else none
  | none => none

def greatest : Nat := 18446744073709551615

def toNatural (bound : Nat) (setting : Setting) : Except Unsuitable Nat :=
  let found : Option Nat :=
    match setting with
    | .flag value => some value.toNat
    | .integer value => if 0 ≤ value then some value.toNat else none
    | .real value => some (value.clampToNat greatest)
    | .text value =>
        match yesOrNo? value with
        | some answer => some answer.toNat
        | none => (digits? value).filter (· ≤ greatest)
    | _ => none
  match found with
  | some n => if n < bound then .ok n else unsuitable
  | none => unsuitable

def toDouble : Setting → Except Unsuitable Binary
  | .flag value => .ok (Format.double.ofNat value.toNat)
  | .integer value => .ok (Format.double.ofInt value)
  | .real value => .ok value
  | .text value =>
      match yesOrNo? value with
      | some answer => .ok (Format.double.ofNat answer.toNat)
      | none =>
          match Number.double? value with
          | some number => .ok number
          | none => unsuitable
  | _ => unsuitable

def toSingle (setting : Setting) : Except Unsuitable Binary :=
  setting.toDouble.map Format.single.convert

def toText : Setting → Except Unsuitable String
  | .text value => .ok value
  | .flag value => .ok (toString value)
  | .integer value => .ok (toString value)
  | .real value => .ok (value.plain .double)
  | _ => unsuitable

def toTexts : Setting → Except Unsuitable (List String)
  | .list items => items.mapM toText
  | _ => unsuitable

def toOptional {α : Type} (convert : Setting → Except Unsuitable α) :
    Setting → Except Unsuitable (Option α)
  | .absent => .ok none
  | setting => (convert setting).map some

variable {ρ : Type}

/-- The fields of a record from members by their names; others are ignored. -/
def putMembers (fields : List (Field Setting Unsuitable ρ)) :
    List (String × Setting) → ρ → Except Unsuitable ρ
  | [], record => .ok record
  | (name, value) :: rest, record =>
      match fields.find? (·.name == name) with
      | none => putMembers fields rest record
      | some field => do
          let record ← field.put value record
          putMembers fields rest record

/-- The fields of a record from items in their order; others are ignored. -/
def putItems : List (Field Setting Unsuitable ρ) → List Setting → ρ →
    Except Unsuitable ρ
  | field :: fields, item :: rest, record => do
      let record ← field.put item record
      putItems fields rest record
  | _, _, record => .ok record

def toRecord (fields : List (Field Setting Unsuitable ρ)) (default : ρ) :
    Setting → Except Unsuitable ρ
  | .table members => putMembers fields members default
  | .list items => putItems fields items default
  | _ => unsuitable

/-- Trees of settings as a source of records. -/
def source : Source Setting Unsuitable where
  flag := toFlag
  natural := toNatural
  single := toSingle
  text := toText
  texts := toTexts
  optional := toOptional
  record := toRecord

end Setting

end PlanGuard
