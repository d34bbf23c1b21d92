import PlanGuard.Pattern.Named
import PlanGuard.Pattern.Expr

/-!
# Escapes

What a backslash makes of the characters after it: a character taken for
itself or by its number, a set, or a condition on a place.  An escape that is
none of these is refused, so that new ones can get a meaning later.
-/

namespace PlanGuard.Pattern

open Text (Ranges)

/-- What can stand alone in a pattern, outside a set or as a member of one. -/
inductive Atom where
  /-- A character; `byte` if it was written as the two digits of a byte. -/
  | character (c : Char) (byte : Bool)
  | set (ranges : Ranges)
  | look (look : Look)

namespace Escape

abbrev Read := Option (Atom × List Char)

def hexValue? (c : Char) : Option Nat :=
  if c.isDigit then some (c.toNat - 48)
  else if 'a' ≤ c ∧ c ≤ 'f' then some (c.toNat - 87)
  else if 'A' ≤ c ∧ c ≤ 'F' then some (c.toNat - 55)
  else none

def characterOf? (n : Nat) : Option Char :=
  if n.isValidChar then some (Char.ofNat n) else none

def hexDigits (flags : Flags) : (count value : Nat) → List Char →
    Option (Nat × List Char)
  | 0, value, letters => some (value, letters)
  | count + 1, value, c :: rest =>
      (hexValue? c).bind fun digit =>
        hexDigits flags count (value * 16 + digit) (flags.skip rest)
  | _ + 1, _, [] => none

/-- Any number of digits up to a closing brace, `fuel` at most. -/
def hexInBraces (flags : Flags) (some? : Bool) : (fuel value : Nat) → List Char →
    Option (Nat × List Char)
  | fuel + 1, value, c :: rest =>
      if c = '\x7d' then if some? then some (value, flags.skip rest) else none
      else
        (hexValue? c).bind fun digit =>
          hexInBraces flags true fuel (value * 16 + digit) (flags.skip rest)
  | _, _, _ => none

/-- A character by its number, after the letter that says how it is written. -/
def number (flags : Flags) (places : Nat) (letters : List Char) : Read :=
  match flags.skip letters with
  | '\x7b' :: rest =>
      (hexInBraces flags false letters.length 0 (flags.skip rest)).bind
        fun (value, rest) =>
          (characterOf? value).map fun c => (.character c false, rest)
  | letters =>
      (hexDigits flags places 0 letters).bind fun (value, rest) =>
        (characterOf? value).map fun c => (.character c (places == 2), rest)

/-- The description of a property up to its closing brace, `fuel` at most. -/
def description (flags : Flags) : (fuel : Nat) → (read : List Char) → List Char →
    Option (List Char × List Char)
  | fuel + 1, read, c :: rest =>
      if c = '\x7d' then some (read.reverse, rest)
      else description flags fuel (c :: read) (flags.skip rest)
  | _, _, _ => none

def property (flags : Flags) (negated : Bool) (letters : List Char) : Read :=
  let finish (found : Option Ranges) (rest : List Char) : Read :=
    if flags.unicode then
      (found.bind (flags.complete negated)).map fun ranges => (.set ranges, rest)
    else none
  match flags.skip letters with
  | [] => none
  | '\x7b' :: rest =>
      (description flags letters.length [] (flags.skip rest)).bind
        fun (name, rest) => finish (Named.ofDescription name) rest
  | '\\' :: _ => none
  | c :: rest => finish (Named.ofName [c]) (flags.skip rest)

/-- A character of the names of edges of words. -/
def isEdgeLetter (c : Char) : Bool :=
  c.isAlpha || c == '-'

def edge? (name : List Char) : Option WordEdge :=
  match String.ofList name with
  | "start" => some .start
  | "end" => some .finish
  | "start-half" => some .startHalf
  | "end-half" => some .finishHalf
  | _ => none

/-- The name of an edge up to its closing brace, `fuel` at most. -/
def edgeName (flags : Flags) : (fuel : Nat) → (read : List Char) → List Char →
    Option (List Char × List Char)
  | fuel + 1, read, c :: rest =>
      if isEdgeLetter c then edgeName flags fuel (c :: read) (flags.skip rest)
      else if c = '\x7d' then some (read.reverse, rest)
      else none
  | _, _, _ => none

/--
An edge of words after its letter.  A brace may name the kind of edge; if no
letter follows the brace, it begins a number of repetitions instead.
-/
def boundary (flags : Flags) (letters : List Char) : Read :=
  let plain : Read := some (.look (.word .boundary flags.unicode), letters)
  match letters with
  | '\x7b' :: rest =>
      match flags.skip rest with
      | [] => none
      | c :: after =>
          if isEdgeLetter c then
            (edgeName flags letters.length [] (c :: after)).bind
              fun (name, rest) =>
                (edge? name).map fun edge => (.look (.word edge flags.unicode), rest)
          else plain
  | _ => plain

/-- A character that stands for itself after a backslash. -/
def isPlain (c : Char) : Bool :=
  c.toNat < 128 && !c.isAlphanum && c != '<' && c != '>'

def control? (c : Char) : Option Char :=
  match c with
  | 'a' => some '\x07'
  | 'f' => some '\x0c'
  | 't' => some '\t'
  | 'n' => some '\n'
  | 'r' => some '\r'
  | 'v' => some '\x0b'
  | _ => none

def read (flags : Flags) : List Char → Read
  | [] => none
  | c :: rest =>
      if isPlain c then some (.character c false, rest)
      else
        match c with
        | 'x' => number flags 2 rest
        | 'u' => number flags 4 rest
        | 'U' => number flags 8 rest
        | 'p' => property flags false rest
        | 'P' => property flags true rest
        | 'A' => some (.look .textStart, rest)
        | 'z' => some (.look .textEnd, rest)
        | 'b' => boundary flags rest
        | 'B' => some (.look (.word .noBoundary flags.unicode), rest)
        | '<' => some (.look (.word .start flags.unicode), rest)
        | '>' => some (.look (.word .finish flags.unicode), rest)
        | _ =>
            match control? c with
            | some meaning => some (.character meaning false, rest)
            | none => (Named.ofLetter flags c).map fun ranges => (.set ranges, rest)

end Escape

end PlanGuard.Pattern
