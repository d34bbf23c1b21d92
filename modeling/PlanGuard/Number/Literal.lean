import PlanGuard.Number.Shortest

/-!
# Decimal literals

A literal is an optional sign, digits with an optional point, and an optional
exponent.  Its value is rounded once, to the nearest binary value.
-/

namespace PlanGuard.Number

def ofDigits (digits : List Char) : Nat :=
  digits.foldl (fun n c => n * 10 + (c.toNat - 48)) 0

/-- The nearest value to `digits * 10 ^ exponent`. -/
def Format.ofDecimal (format : Format) (negative : Bool) (decimal : Decimal) :
    Binary :=
  if decimal.digits = 0 then .finite negative 0 format.least
  else if decimal.exponent + digitCount decimal.digits < -400 then
    .finite negative 0 format.least
  else if 400 < decimal.exponent + digitCount decimal.digits then
    .infinite negative
  else
    let (up, down) := powerOfTen decimal.exponent
    format.round negative (decimal.digits * up) down 0

def takeSign : List Char → Bool × List Char
  | '-' :: rest => (true, rest)
  | '+' :: rest => (false, rest)
  | letters => (false, letters)

/-- The signed value of an exponent's letters, if they are one. -/
def exponent? (letters : List Char) : Option Int :=
  let (negative, digits) := takeSign letters
  if digits.isEmpty || !digits.all Char.isDigit then none
  else
    let n : Int := ofDigits digits
    some (if negative then -n else n)

/-- The decimal that letters without a sign write. -/
def decimal? (letters : List Char) : Option Decimal :=
  let whole := letters.takeWhile Char.isDigit
  let rest := letters.dropWhile Char.isDigit
  let (fraction, rest) :=
    match rest with
    | '.' :: rest => (rest.takeWhile Char.isDigit, rest.dropWhile Char.isDigit)
    | _ => ([], rest)
  if whole.isEmpty && fraction.isEmpty then none
  else
    let unscaled : Decimal := ⟨ofDigits (whole ++ fraction), -fraction.length⟩
    match rest with
    | [] => some unscaled
    | mark :: rest =>
        if mark = 'e' || mark = 'E' then
          (exponent? rest).map fun shift =>
            { unscaled with exponent := unscaled.exponent + shift }
        else none

/-- The words for values that digits cannot write, in lower case. -/
def special? (negative : Bool) (word : String) : Option Binary :=
  if word = "inf" || word = "infinity" then some (.infinite negative)
  else if word = "nan" then some .nan
  else none

/-- The double that a text writes, if it is a literal or a special word. -/
def double? (text : String) : Option Binary :=
  let (negative, letters) := takeSign text.toList
  match special? negative (String.ofList (letters.map Char.toLower)) with
  | some value => some value
  | none => (decimal? letters).map (Format.double.ofDecimal negative)

def integer? (text : String) : Option Int :=
  exponent? text.toList

end PlanGuard.Number
