/-!
# Binary floating-point numbers

Values of the two usual widths, held exactly as a whole number times a power
of two, and rounding to the nearest of them with ties to the even neighbour.
-/

namespace PlanGuard.Number

/-- The whole number nearest to a quotient; a tie goes to the even one. -/
def divEven (num den : Nat) : Nat :=
  let whole := num / den
  let twice := 2 * (num % den)
  if twice < den then whole
  else if den < twice then whole + 1
  else whole + whole % 2

/-- The whole number nearest to a quotient; a tie goes up. -/
def divUp (num den : Nat) : Nat :=
  (2 * num + den) / (2 * den)

def powerOfTwo (exponent : Int) : Nat × Nat :=
  (Nat.pow 2 exponent.toNat, Nat.pow 2 (-exponent).toNat)

/-- A width: bits of precision, and the least and greatest last places. -/
structure Format where
  precision : Nat
  least : Int
  greatest : Int

def Format.single : Format := ⟨24, -149, 104⟩

def Format.double : Format := ⟨53, -1074, 971⟩

/-- A value; a finite one is `mantissa * 2 ^ exponent` with a sign. -/
inductive Binary where
  | finite (negative : Bool) (mantissa : Nat) (exponent : Int)
  | infinite (negative : Bool)
  | nan
  deriving DecidableEq

namespace Format

/-- The last place for a positive quotient, before any carry of rounding. -/
def lastPlace (format : Format) (num den : Nat) : Int :=
  let bits := (num.log2 : Int) - den.log2
  let (up, down) := powerOfTwo bits
  let place := bits - format.precision + if num * down < den * up then 0 else 1
  max format.least place

def round (format : Format) (negative : Bool) (num den : Nat) (shift : Int) :
    Binary :=
  let (up, down) := powerOfTwo shift
  let num := num * up
  let den := den * down
  if num = 0 then .finite negative 0 format.least
  else
    let place := format.lastPlace num den
    let (up, down) := powerOfTwo place
    let mantissa := divEven (num * down) (den * up)
    let carried := mantissa == Nat.pow 2 format.precision
    let mantissa := if carried then mantissa / 2 else mantissa
    let place := if carried then place + 1 else place
    if format.greatest < place then .infinite negative
    else .finite negative mantissa place

def ofNat (format : Format) (n : Nat) : Binary :=
  format.round false n 1 0

def ofInt (format : Format) (n : Int) : Binary :=
  format.round (n < 0) n.natAbs 1 0

def convert (format : Format) : Binary → Binary
  | .finite negative mantissa exponent =>
      format.round negative mantissa 1 exponent
  | other => other

end Format

namespace Binary

def negate : Binary → Binary
  | .finite negative mantissa exponent => .finite (!negative) mantissa exponent
  | .infinite negative => .infinite (!negative)
  | .nan => .nan

def isInfinite : Binary → Bool
  | .infinite _ => true
  | _ => false

def isZero : Binary → Bool
  | .finite _ 0 _ => true
  | _ => false

/-- Two finite values over a common power of two, as signed whole numbers. -/
def aligned (first second : Bool × Nat × Int) : Int × Int :=
  let place := min first.2.2 second.2.2
  let scaled (value : Bool × Nat × Int) : Int :=
    let size : Int := value.2.1 * Nat.pow 2 (value.2.2 - place).toNat
    if value.1 then -size else size
  (scaled first, scaled second)

def less : Binary → Binary → Bool
  | .nan, _ => false
  | _, .nan => false
  | .infinite negative, .infinite other => negative && !other
  | .infinite negative, .finite _ _ _ => negative
  | .finite _ _ _, .infinite negative => !negative
  | .finite s m e, .finite s' m' e' =>
      let (first, second) := aligned (s, m, e) (s', m', e')
      first < second

def times (format : Format) : Binary → Binary → Binary
  | .finite s m e, .finite s' m' e' => format.round (s != s') (m * m') 1 (e + e')
  | _, _ => .nan

/-- The quotient by a value that is not zero, rounded once. -/
def divide (format : Format) : Binary → Binary → Binary
  | .finite s m e, .finite s' m' e' => format.round (s != s') m m' (e - e')
  | _, _ => .nan

/--
The nearest whole number from 0 to `bound`, ties away from zero; what is not a
number counts as zero.
-/
def clampToNat (bound : Nat) : Binary → Nat
  | .finite true _ _ => 0
  | .finite false mantissa exponent =>
      let (up, down) := powerOfTwo exponent
      min bound (divUp (mantissa * up) down)
  | .infinite negative => if negative then 0 else bound
  | .nan => 0

end Binary

end PlanGuard.Number
