import PlanGuard.Number.Literal

/-!
# The value of a JSON number

A whole number that fits 64 bits is itself.  Any other number is a double,
found with at most two roundings: the digits that fit 64 bits make a whole
number, which is rounded and then scaled by a power of ten.
-/

namespace PlanGuard.Json

open Number

inductive Numeral where
  | natural (n : Nat)
  | negative (n : Nat)
  | real (value : Binary)
  /-- Too large for a double. -/
  | outOfRange

/-- One more than the greatest 64-bit number. -/
def wordSize : Nat := 18446744073709551616

def takeDigits (n : Nat) (taken : Nat) : List Char → Nat × Nat × Nat
  | [] => (n, taken, 0)
  | c :: rest =>
      let next := n * 10 + (c.toNat - 48)
      if next < wordSize then takeDigits next (taken + 1) rest
      else (n, taken, (c :: rest).length)

/-- The greatest power of ten that is applied in one step. -/
def greatestPower : Nat := 308

def scale (value : Binary) (exponent : Int) : Option Binary :=
  if value.isZero then some value
  else if exponent < -greatestPower then
    scale (value.divide .double (Format.double.ofNat (Nat.pow 10 greatestPower)))
      (exponent + greatestPower)
  else if exponent < 0 then
    some (value.divide .double (Format.double.ofNat (Nat.pow 10 exponent.natAbs)))
  else if (greatestPower : Int) < exponent then none
  else
    let scaled := value.times .double (Format.double.ofNat (Nat.pow 10 exponent.natAbs))
    if scaled.isInfinite then none else some scaled
termination_by exponent.natAbs
decreasing_by
  simp only [greatestPower] at *
  omega

/-- A literal in parts: the digits before and after the point, the exponent. -/
structure Parts where
  negative : Bool
  whole : List Char
  fraction : List Char
  exponent : Option Int
  hasPoint : Bool

def Parts.ofLiteral (literal : List Char) : Parts :=
  let (negative, letters) := takeSign literal
  let whole := letters.takeWhile Char.isDigit
  let rest := letters.dropWhile Char.isDigit
  let (fraction, rest, hasPoint) :=
    match rest with
    | '.' :: rest =>
        (rest.takeWhile Char.isDigit, rest.dropWhile Char.isDigit, true)
    | _ => ([], rest, false)
  { negative, whole, fraction, hasPoint, exponent := exponent? (rest.drop 1) }

/-- The greatest exponent that is taken at its value. -/
def greatestExponent : Int := 2147483647

/-- The double for parts that are no whole number of 64 bits. -/
def Parts.real (parts : Parts) (n : Nat) (shift : Int) : Numeral :=
  let exponent := parts.exponent.getD 0
  let scaled :=
    if greatestExponent < exponent then
      if n = 0 then some (Format.double.ofNat 0) else none
    else if exponent < -greatestExponent then some (Format.double.ofNat 0)
    else scale (Format.double.ofNat n) (shift + exponent)
  match scaled with
  | some value => .real (if parts.negative then value.negate else value)
  | none => .outOfRange

def Numeral.ofLiteral (literal : List Char) : Numeral :=
  let parts := Parts.ofLiteral literal
  let (n, _, left) := takeDigits 0 0 parts.whole
  if parts.hasPoint || parts.exponent.isSome || left ≠ 0 then
    let (n, taken, _) := takeDigits n 0 parts.fraction
    parts.real n ((left : Int) - taken)
  else if parts.negative then
    if n = 0 || wordSize / 2 < n then parts.real n 0 else .negative n
  else .natural n

end PlanGuard.Json
