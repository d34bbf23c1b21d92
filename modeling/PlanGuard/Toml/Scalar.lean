import PlanGuard.Settings.Tree
import PlanGuard.Time

/-!
# Plain TOML values

Numbers, flags and dates.  Digits may be separated by single underscores; whole
numbers have 64 bits and may be written in four bases.  A date or time is kept
as text, in its usual form.
-/

namespace PlanGuard.Toml

open Number

def digitValue (c : Char) : Nat :=
  if c.isDigit then c.toNat - 48
  else if 'a' ≤ c ∧ c ≤ 'f' then c.toNat - 87
  else if 'A' ≤ c ∧ c ≤ 'F' then c.toNat - 55
  else 16

/-- Drops the underscores between digits; `none` if one stands elsewhere. -/
def plainDigits (base : Nat) (afterDigit : Bool) : List Char → Option (List Char)
  | [] => if afterDigit then some [] else none
  | c :: rest =>
      if digitValue c < base then (plainDigits base true rest).map (c :: ·)
      else if c = '_' && afterDigit then plainDigits base false rest
      else none

def valueOf (base : Nat) (digits : List Char) : Nat :=
  digits.foldl (fun n c => n * base + digitValue c) 0

def integerBound : Int := 9223372036854775808

def inBounds (n : Int) : Option Setting :=
  if -integerBound ≤ n && n < integerBound then some (.integer n) else none

def basedInteger (base : Nat) (letters : List Char) : Option Setting :=
  (plainDigits base false letters).bind fun digits => inBounds (valueOf base digits)

/-- Digits without a zero in front of others. -/
def wholeDigits (letters : List Char) : Option (List Char) :=
  (plainDigits 10 false letters).bind fun digits =>
    match digits with
    | '0' :: _ :: _ => none
    | digits => some digits

def decimalInteger (negative : Bool) (letters : List Char) : Option Setting :=
  (wholeDigits letters).bind fun digits =>
    let n : Int := valueOf 10 digits
    inBounds (if negative then -n else n)

def exponentOf (letters : List Char) : Option Int :=
  let (negative, digits) := takeSign letters
  (plainDigits 10 false digits).map fun digits =>
    let n : Int := valueOf 10 digits
    if negative then -n else n

/-- A number with a point or an exponent, or both. -/
def fraction (negative : Bool) (letters : List Char) : Option Setting := do
  let isMark (c : Char) : Bool := c == 'e' || c == 'E'
  let front := letters.takeWhile fun c => !isMark c
  let exponent ←
    match letters.dropWhile fun c => !isMark c with
    | [] => some 0
    | _ :: rest => exponentOf rest
  let whole ← wholeDigits (front.takeWhile (· != '.'))
  let places ←
    match front.dropWhile (· != '.') with
    | [] => some []
    | _ :: rest => plainDigits 10 false rest
  let digits := valueOf 10 (whole ++ places)
  let value := Format.double.ofDecimal negative ⟨digits, exponent - places.length⟩
  if value = .infinite false then none else some (.real value)

def number (letters : List Char) : Option Setting :=
  let signed := letters.head? == some '-' || letters.head? == some '+'
  let (negative, rest) := takeSign letters
  match rest with
  | ['i', 'n', 'f'] => some (.real (.infinite negative))
  | ['n', 'a', 'n'] => some (.real .nan)
  | '0' :: 'x' :: rest => if signed then none else basedInteger 16 rest
  | '0' :: 'o' :: rest => if signed then none else basedInteger 8 rest
  | '0' :: 'b' :: rest => if signed then none else basedInteger 2 rest
  | rest =>
      if rest.any fun c => c == '.' || c == 'e' || c == 'E' then fraction negative rest
      else decimalInteger negative rest

/-! ## Dates and times -/

/-- Exactly `count` digits in front, and what follows them. -/
def fixedDigits (count : Nat) (letters : List Char) : Option (Nat × List Char) :=
  let digits := letters.take count
  if digits.length = count && digits.all Char.isDigit then
    some (ofDigits digits, letters.drop count)
  else none

def isLeapYear (year : Nat) : Bool :=
  year % 4 == 0 && (year % 100 != 0 || year % 400 == 0)

def daysIn (year month : Nat) : Nat :=
  if month = 2 then if isLeapYear year then 29 else 28
  else if month = 4 || month = 6 || month = 9 || month = 11 then 30
  else 31

def date (letters : List Char) : Option (String × List Char) := do
  let (year, rest) ← fixedDigits 4 letters
  let '-' :: rest := rest | none
  let (month, rest) ← fixedDigits 2 rest
  let '-' :: rest := rest | none
  let (day, rest) ← fixedDigits 2 rest
  if 1 ≤ month && month ≤ 12 && 1 ≤ day && day ≤ daysIn year month then
    some (String.ofList (letters.take 10), rest)
  else none

/-- The digits of a fraction of a second, nine at most and no zeros at the end. -/
def secondFraction (digits : List Char) : String :=
  let kept := ((digits.take 9).reverse.dropWhile (· == '0')).reverse
  if kept.isEmpty then "" else "." ++ String.ofList kept

def timeOfDay (letters : List Char) : Option (String × List Char) := do
  let (hour, rest) ← fixedDigits 2 letters
  let ':' :: rest := rest | none
  let (minute, rest) ← fixedDigits 2 rest
  let ':' :: rest := rest | none
  let (second, rest) ← fixedDigits 2 rest
  if 24 ≤ hour || 60 ≤ minute || 60 < second then none
  else
    let text := String.ofList (letters.take 8)
    match rest with
    | '.' :: rest =>
        let digits := rest.takeWhile Char.isDigit
        if digits.isEmpty then none
        else some (text ++ secondFraction digits, rest.drop digits.length)
    | rest => some (text, rest)

def zone (letters : List Char) : Option String :=
  match letters with
  | [] => some ""
  | ['Z'] | ['z'] => some "Z"
  | sign :: rest => do
      let (hour, rest) ← fixedDigits 2 rest
      let ':' :: rest := rest | none
      let (minute, rest) ← fixedDigits 2 rest
      if (sign = '+' || sign = '-') && hour < 24 && minute < 60 && rest.isEmpty then
        some (String.ofList letters)
      else none

/-- A date, a time of day, or both with or without a zone. -/
def moment (letters : List Char) : Option Setting :=
  match date letters with
  | some (day, []) => some (.text day)
  | some (day, mark :: rest) =>
      if mark = 'T' || mark = 't' || mark = ' ' then do
        let (time, rest) ← timeOfDay rest
        let zone ← zone rest
        some (.text (day ++ "T" ++ time ++ zone))
      else none
  | none =>
      match timeOfDay letters with
      | some (time, []) => some (.text time)
      | _ => none

def scalar (letters : List Char) : Option Setting :=
  match letters with
  | ['t', 'r', 'u', 'e'] => some (.flag true)
  | ['f', 'a', 'l', 's', 'e'] => some (.flag false)
  | letters => (number letters).or (moment letters)

end PlanGuard.Toml
