import PlanGuard.Number.Binary

/-!
# Records and where their values come from

A record is described once, by its named fields.  A `Source` says how the kinds
of value that fields have are found in one sort of written values, so that one
description serves every sort.
-/

namespace PlanGuard

/-- A named part of a record: how a value of kind `ν` is put into it. -/
structure Field (ν ε ρ : Type) where
  name : String
  put : ν → ρ → Except ε ρ

/-- How values of each kind are found in written values of sort `ν`. -/
structure Source (ν ε : Type) where
  flag : ν → Except ε Bool
  /-- A whole number below a bound. -/
  natural : (bound : Nat) → ν → Except ε Nat
  /-- A binary number of single width. -/
  single : ν → Except ε Number.Binary
  text : ν → Except ε String
  texts : ν → Except ε (List String)
  /-- A value that may be absent. -/
  optional : {α : Type} → (ν → Except ε α) → ν → Except ε (Option α)
  /-- A record, from its fields and its default. -/
  record : {ρ : Type} → List (Field ν ε ρ) → ρ → ν → Except ε ρ

end PlanGuard
