import PlanGuard.Number.Binary

/-!
# The shortest decimal

Of the decimals that read back as a given binary value, `shortest` finds those
with the fewest digits, and of those the one nearest to the value.  Every
comparison is between whole numbers.  If a decimal grid has a point that reads
back, then one of the two grid points around the value does, so only those two
are tried, on grids of one digit, two digits, and so on.
-/

namespace PlanGuard.Number

structure Decimal where
  digits : Nat
  exponent : Int
  deriving DecidableEq

def powerOfTen (exponent : Int) : Nat × Nat :=
  (Nat.pow 10 exponent.toNat, Nat.pow 10 (-exponent).toNat)

def digitCount (n : Nat) : Nat :=
  (toString n).length

/--
The decimals that read back as a value: those from `low` to `high` in units of
`2 ^ place`, the ends included when `closed`.  The value itself is `middle`.
-/
structure Interval where
  low : Nat
  middle : Nat
  high : Nat
  place : Int
  closed : Bool

/-- The interval that rounds to a positive value, in quarters of its last place. -/
def Format.interval (format : Format) (mantissa : Nat) (exponent : Int) :
    Interval :=
  let atEdge :=
    mantissa == Nat.pow 2 (format.precision - 1) && format.least < exponent
  { low := 4 * mantissa - if atEdge then 1 else 2
    middle := 4 * mantissa
    high := 4 * mantissa + 2
    place := exponent - 2
    closed := mantissa % 2 == 0 }

namespace Interval

/-- A decimal in units of the interval, as a fraction with the given scale. -/
def scaled (interval : Interval) (decimal : Decimal) : Nat × Nat :=
  let (tenUp, tenDown) := powerOfTen decimal.exponent
  let (twoUp, twoDown) := powerOfTwo interval.place
  (decimal.digits * tenUp * twoDown, tenDown * twoUp)

def contains (interval : Interval) (decimal : Decimal) : Bool :=
  let (num, den) := interval.scaled decimal
  if interval.closed then
    interval.low * den ≤ num && num ≤ interval.high * den
  else interval.low * den < num && num < interval.high * den

def distance (interval : Interval) (decimal : Decimal) : Nat :=
  let (num, den) := interval.scaled decimal
  let middle := interval.middle * den
  if num < middle then middle - num else num - middle

def magnitude (interval : Interval) : Int :=
  let (up, down) := powerOfTwo interval.place
  let lift : Nat := 400
  (digitCount (interval.middle * up * Nat.pow 10 lift / down) : Int) - 1 - lift

def below (interval : Interval) (exponent : Int) : Decimal :=
  let (tenUp, tenDown) := powerOfTen exponent
  let (twoUp, twoDown) := powerOfTwo interval.place
  { digits := interval.middle * twoUp * tenDown / (twoDown * tenUp), exponent }

/-- The better of the two grid points around the middle, if one reads back. -/
def onGrid (interval : Interval) (exponent : Int) : Option Decimal :=
  let down := interval.below exponent
  let up := { down with digits := down.digits + 1 }
  match interval.contains down, interval.contains up with
  | false, false => none
  | true, false => some down
  | false, true => some up
  | true, true =>
      let near := interval.distance down
      let far := interval.distance up
      if near < far || (near == far && down.digits % 2 == 0) then some down
      else some up

/-- Grids of `count` more digits, from the coarsest. -/
def search (interval : Interval) (exponent : Int) : (count : Nat) → Decimal
  | 0 => interval.below exponent
  | count + 1 =>
      match interval.onGrid exponent with
      | some decimal => decimal
      | none => interval.search (exponent - 1) count

end Interval

/-- Drops zeros at the end of the digits, `fuel` at most. -/
def Decimal.trim : (fuel : Nat) → Decimal → Decimal
  | 0, decimal => decimal
  | fuel + 1, decimal =>
      if decimal.digits % 10 = 0 && decimal.digits != 0 then
        trim fuel ⟨decimal.digits / 10, decimal.exponent + 1⟩
      else decimal

/-- The shortest decimal that reads back as `mantissa * 2 ^ exponent`. -/
def Format.shortest (format : Format) (mantissa : Nat) (exponent : Int) : Decimal :=
  let interval := format.interval mantissa exponent
  (interval.search interval.magnitude 17).trim 20

end PlanGuard.Number
