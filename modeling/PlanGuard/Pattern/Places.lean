import PlanGuard.Pattern.Expr
import PlanGuard.Unicode.Property

/-!
# Where expressions match

The places of a text are numbered from 0, before its first character, to its
length.  A set of places is a number whose bits say which places are in it.
`Expr.reach` takes a set of places from which matching starts to the set of
places where it can end; a text is accepted if, starting anywhere, it can end.
-/

namespace PlanGuard.Pattern

/-- A set of places in a text, as the bits of a number. -/
abbrev Places := Nat

namespace Places

def all (length : Nat) : Places :=
  Nat.pow 2 (length + 1) - 1

def minus (first second : Places) : Places :=
  first ^^^ (first &&& second)

/-- The places at which a test holds, the first of them being `place`. -/
def whereFrom {α : Type} (test : α → Bool) : (place : Nat) → List α → Places
  | _, [] => 0
  | place, item :: rest =>
      (if test item then 1 <<< place else 0) ||| whereFrom test (place + 1) rest

end Places

/-- The characters before and after each place of a text. -/
def surroundings : (before : Option Char) → List Char →
    List (Option Char × Option Char)
  | before, [] => [(before, none)]
  | before, c :: rest => (before, some c) :: surroundings (some c) rest

def wordSet : Array (Nat × Nat) :=
  Unicode.wordCharacters.toArray

def isAsciiWord (c : Char) : Bool :=
  c.isAlphanum || c == '_'

def isWord (unicode : Bool) (c : Char) : Bool :=
  if unicode then isAsciiWord c || Text.Ranges.member wordSet c.toNat
  else isAsciiWord c

/-- A condition, by the characters around the place. -/
def Look.holds (look : Look) (around : Option Char × Option Char) : Bool :=
  let (before, after) := around
  match look with
  | .textStart => before.isNone
  | .textEnd => after.isNone
  | .lineStart false => before.isNone || before == some '\n'
  | .lineEnd false => after.isNone || after == some '\n'
  | .lineStart true =>
      before.isNone || before == some '\n' ||
        (before == some '\r' && after != some '\n')
  | .lineEnd true =>
      after.isNone || after == some '\r' ||
        (after == some '\n' && before != some '\r')
  | .word edge unicode =>
      edge.holds (before.any (isWord unicode)) (after.any (isWord unicode))

structure Subject where
  letters : List Char
  around : List (Option Char × Option Char)

namespace Subject

def ofString (text : String) : Subject :=
  { letters := text.toList, around := surroundings none text.toList }

def before (subject : Subject) (ranges : Text.Ranges) : Places :=
  let members := ranges.toArray
  Places.whereFrom (fun c => Text.Ranges.member members c.toNat) 0 subject.letters

def fulfilling (subject : Subject) (look : Look) : Places :=
  Places.whereFrom look.holds 0 subject.around

end Subject

/-- Takes a step `count` times, or until it changes nothing more. -/
def iterate (step : Places → Places) : (count : Nat) → Places → Places
  | 0, places => places
  | count + 1, places =>
      let next := step places
      if next = places then places else iterate step count next

/--
All places that at most `count` steps reach from `fresh`, together with those
in `seen`.  Only places that were not seen before are followed further.
-/
def closure (step : Places → Places) : (count : Nat) → (seen fresh : Places) → Places
  | 0, seen, _ => seen
  | count + 1, seen, fresh =>
      let new := (step fresh).minus seen
      if new = 0 then seen else closure step count (seen ||| new) new

/-- The places where an expression can end when it starts at some of `places`. -/
def Expr.reach (subject : Subject) : Expr → Places → Places
  | .empty, places => places
  | .set ranges, places => (places &&& subject.before ranges) <<< 1
  | .look condition, places => places &&& subject.fulfilling condition
  | .seq first second, places => second.reach subject (first.reach subject places)
  | .alt first second, places =>
      first.reach subject places ||| second.reach subject places
  | .loop body least most, places =>
      let start := iterate (body.reach subject) least places
      let further :=
        match most with
        | none => subject.letters.length + 1
        | some most => most - least
      closure (body.reach subject) further start start
  | .group body, places => body.reach subject places

def Expr.occursIn (expr : Expr) (text : String) : Bool :=
  let subject := Subject.ofString text
  expr.reach subject (Places.all subject.letters.length) != 0

end PlanGuard.Pattern
