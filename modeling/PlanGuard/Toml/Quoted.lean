import PlanGuard.Settings.Tree

/-!
# TOML strings

Strings between single quotes stand for themselves, those between double quotes
have escapes, and three quotes of either sort allow line ends in between.
-/

namespace PlanGuard.Toml

/-- Characters that stand in no string or comment: controls other than the tab. -/
def isControl (c : Char) : Bool :=
  (c.toNat < 32 && c != '\t') || c.toNat = 127

namespace Quoted

abbrev Read := Option (String × List Char)

/-- What a letter after a backslash stands for. -/
def escaped? (c : Char) : Option Char :=
  match c with
  | 'b' => some '\x08'
  | 't' => some '\t'
  | 'n' => some '\n'
  | 'f' => some '\x0c'
  | 'r' => some '\r'
  | '"' => some '"'
  | '\\' => some '\\'
  | _ => none

def hexValue? (c : Char) : Option Nat :=
  if c.isDigit then some (c.toNat - 48)
  else if 'a' ≤ c ∧ c ≤ 'f' then some (c.toNat - 87)
  else if 'A' ≤ c ∧ c ≤ 'F' then some (c.toNat - 55)
  else none

/-- The character of so many hexadecimal digits, and what follows them. -/
def numbered (count : Nat) (letters : List Char) : Option (Char × List Char) :=
  let digits := letters.take count
  if digits.length = count then
    (digits.mapM hexValue?).bind fun values =>
      let n := values.foldl (fun n value => n * 16 + value) 0
      if n.isValidChar then some (Char.ofNat n, letters.drop count) else none
  else none

def escape : List Char → Option (Char × List Char)
  | 'u' :: rest => numbered 4 rest
  | 'U' :: rest => numbered 8 rest
  | c :: rest => (escaped? c).map fun meaning => (meaning, rest)
  | [] => none

def line (quote : Char) : (fuel : Nat) → (read : List Char) → List Char → Read
  | fuel + 1, read, c :: rest =>
      if c = quote then some (String.ofList read.reverse, rest)
      else if isControl c then none
      else if c = '\\' && quote = '"' then
        (escape rest).bind fun (meaning, rest) => line quote fuel (meaning :: read) rest
      else line quote fuel (c :: read) rest
  | _, _, _ => none

/-- A line end in front is passed over; both of its forms are one line end. -/
def takeLineEnd : List Char → Option (List Char)
  | '\n' :: rest => some rest
  | '\r' :: '\n' :: rest => some rest
  | _ => none

/-- All blanks and line ends in front are passed over. -/
def skipBlankLines : (fuel : Nat) → List Char → List Char
  | 0, letters => letters
  | fuel + 1, letters =>
      match takeLineEnd letters with
      | some rest => skipBlankLines fuel rest
      | none =>
          match letters with
          | ' ' :: rest | '\t' :: rest => skipBlankLines fuel rest
          | letters => letters

/-- A backslash at the end of a line: what follows the blanks up to the text. -/
def continued? (letters : List Char) : Option (List Char) :=
  let rest := letters.dropWhile fun c => c == ' ' || c == '\t'
  (takeLineEnd rest).map (skipBlankLines letters.length)

/-- Quotes at the end of a string that are part of it, up to two. -/
def closing (quote : Char) (read rest : List Char) : Read :=
  let further := (rest.takeWhile (· == quote)).length
  if further ≤ 2 then
    some (String.ofList (List.replicate further quote ++ read).reverse, rest.drop further)
  else
    some (String.ofList (quote :: quote :: read).reverse, rest.drop 2)

def lines (quote : Char) : (fuel : Nat) → (read : List Char) → List Char → Read
  | fuel + 1, read, letters =>
      match takeLineEnd letters with
      | some rest => lines quote fuel ('\n' :: read) rest
      | none =>
          match letters with
          | [] => none
          | c :: rest =>
              if c = quote && rest.take 2 == [quote, quote] then
                closing quote read (rest.drop 2)
              else if isControl c then none
              else if c = '\\' && quote = '"' then
                match continued? rest with
                | some rest => lines quote fuel read rest
                | none =>
                    (escape rest).bind fun (meaning, rest) =>
                      lines quote fuel (meaning :: read) rest
              else lines quote fuel (c :: read) rest
  | 0, _, _ => none

def value (quote : Char) (letters : List Char) : Read :=
  if letters.take 2 == [quote, quote] then
    let inner := letters.drop 2
    lines quote (letters.length + 1) [] ((takeLineEnd inner).getD inner)
  else line quote (letters.length + 1) [] letters

end Quoted

end PlanGuard.Toml
