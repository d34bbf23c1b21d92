import PlanGuard.Number.Shortest

/-!
# Numbers as text

Three ways to write a binary value: with the fewest digits and an exponent
where the positional form would be long, with the fewest digits and no exponent
at all, and with exactly one place after the point.
-/

namespace PlanGuard.Number

def zeros (count : Nat) : String :=
  String.ofList (List.replicate count '0')

/-- Positional digits, with a point only if there is a fraction. -/
def Decimal.positional (decimal : Decimal) : String :=
  let digits := toString decimal.digits
  if 0 ≤ decimal.exponent then digits ++ zeros decimal.exponent.toNat
  else
    let places := (-decimal.exponent).toNat
    if places < digits.length then
      let whole := digits.length - places
      String.ofList (digits.toList.take whole) ++ "." ++
        String.ofList (digits.toList.drop whole)
    else "0." ++ zeros (places - digits.length) ++ digits

def Decimal.scientific (decimal : Decimal) : String :=
  let digits := (toString decimal.digits).toList
  let exponent := decimal.exponent + digits.length - 1
  let fraction := digits.drop 1
  String.ofList (digits.take 1) ++
    (if fraction.isEmpty then "" else "." ++ String.ofList fraction) ++
    (if exponent < 0 then "e-" else "e+") ++ toString exponent.natAbs

/--
Where the positional form is used: from `10 ^ leastPositional` up to, and not
including, `10 ^ greatestPositional`.
-/
structure Layout where
  leastPositional : Int
  greatestPositional : Int

/-- The layout of single-width numbers in documents. -/
def Layout.single : Layout := ⟨-6, 13⟩

def signText (negative : Bool) : String :=
  if negative then "-" else ""

/-- A whole number still shows that it is a fraction type. -/
def withPoint (text : String) : String :=
  if text.toList.contains '.' then text else text ++ ".0"

/-- Fewest digits; `none` for what is not a finite number. -/
def Binary.compact? (format : Format) (layout : Layout) : Binary → Option String
  | .finite negative 0 _ => some (signText negative ++ "0.0")
  | .finite negative mantissa exponent =>
      let decimal := format.shortest mantissa exponent
      let magnitude := decimal.exponent + digitCount decimal.digits - 1
      let body :=
        if layout.leastPositional ≤ magnitude &&
            magnitude < layout.greatestPositional then
          withPoint decimal.positional
        else decimal.scientific
      some (signText negative ++ body)
  | _ => none

/-- Fewest digits, never an exponent, and no point in a whole number. -/
def Binary.plain (format : Format) : Binary → String
  | .finite negative 0 _ => signText negative ++ "0"
  | .finite negative mantissa exponent =>
      signText negative ++ (format.shortest mantissa exponent).positional
  | .infinite negative => signText negative ++ "inf"
  | .nan => "NaN"

/-- Exactly one place after the point; a tie goes to the even digit. -/
def Binary.onePlace : Binary → String
  | .finite negative mantissa exponent =>
      let (up, down) := powerOfTwo exponent
      let tenths := divEven (mantissa * up * 10) down
      signText negative ++ toString (tenths / 10) ++ "." ++ toString (tenths % 10)
  | .infinite negative => signText negative ++ "inf"
  | .nan => "NaN"

end PlanGuard.Number
