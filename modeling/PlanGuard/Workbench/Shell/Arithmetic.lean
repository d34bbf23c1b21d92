import PlanGuard.Workbench.Shell.Word

/-!
# Arithmetic in a shell

Expressions over whole numbers.  A comparison is one if it holds and zero if
not; a division by zero has no value.
-/

namespace PlanGuard.Workbench.Shell.Arithmetic

/-- The operators by how tightly they bind, the loosest first. -/
def levels : List (List String) :=
  [["||"], ["&&"], ["==", "!="], ["<=", ">=", "<", ">"], ["+", "-"],
    ["*", "/", "%"]]

def truth (holds : Bool) : Int := if holds then 1 else 0

def apply (operator : String) (first second : Int) : Option Int :=
  match operator with
  | "||" => some (truth (first != 0 || second != 0))
  | "&&" => some (truth (first != 0 && second != 0))
  | "==" => some (truth (first == second))
  | "!=" => some (truth (first != second))
  | "<=" => some (truth (first ≤ second))
  | ">=" => some (truth (second ≤ first))
  | "<" => some (truth (first < second))
  | ">" => some (truth (second < first))
  | "+" => some (first + second)
  | "-" => some (first - second)
  | "*" => some (first * second)
  | "/" => if second = 0 then none else some (first.tdiv second)
  | "%" => if second = 0 then none else some (first.tmod second)
  | _ => none

def skipBlanks (letters : List Char) : List Char :=
  letters.dropWhile fun c => c == ' ' || c == '\t' || c == '\n'

mutual

def expression (lookup : String → Int) :
    (fuel : Nat) → List (List String) → List Char → Option (Int × List Char)
  | 0, _, _ => none
  | fuel + 1, [], letters => operand lookup fuel (skipBlanks letters)
  | fuel + 1, operators :: tighter, letters => do
      let (first, rest) ← expression lookup fuel tighter letters
      continued lookup fuel operators tighter first rest

/-- What operators of one level add to a value. -/
def continued (lookup : String → Int) :
    (fuel : Nat) → (operators : List String) → (tighter : List (List String)) →
      Int → List Char → Option (Int × List Char)
  | 0, _, _, _, _ => none
  | fuel + 1, operators, tighter, first, letters =>
      let letters := skipBlanks letters
      match operators.find? fun operator => operator.toList.isPrefixOf letters with
      | none => some (first, letters)
      | some operator => do
          let (second, rest) ←
            expression lookup fuel tighter (letters.drop operator.length)
          let value ← apply operator first second
          continued lookup fuel operators tighter value rest

def operand (lookup : String → Int) :
    (fuel : Nat) → List Char → Option (Int × List Char)
  | 0, _ => none
  | _ + 1, [] => none
  | fuel + 1, '(' :: rest => do
      let (value, rest) ← expression lookup fuel levels rest
      match skipBlanks rest with
      | ')' :: rest => some (value, rest)
      | _ => none
  | fuel + 1, '-' :: rest => do
      let (value, rest) ← operand lookup fuel (skipBlanks rest)
      some (-value, rest)
  | fuel + 1, '+' :: rest => operand lookup fuel (skipBlanks rest)
  | fuel + 1, '!' :: rest => do
      let (value, rest) ← operand lookup fuel (skipBlanks rest)
      some (truth (value == 0), rest)
  | _ + 1, c :: rest =>
      if c.isDigit then
        let digits := c :: rest.takeWhile Char.isDigit
        (String.ofList digits).toNat?.map fun value =>
          ((value : Int), rest.dropWhile Char.isDigit)
      else if startsName c then
        let name := c :: rest.takeWhile inName
        some (lookup (String.ofList name), rest.dropWhile inName)
      else none

end

def value? (lookup : String → Int) (text : String) : Option Int := do
  let fuel := 16 * text.length + 16
  let (value, rest) ← expression lookup fuel levels text.toList
  if (skipBlanks rest).isEmpty then some value else none

end PlanGuard.Workbench.Shell.Arithmetic
