import PlanGuard.Pattern.Escape

/-!
# Sets between brackets

A set lists characters, ranges, named sets and other sets, and may combine such
lists by intersection, difference and symmetric difference, from left to right.
Case is evened out before sets are combined, and before a set is negated.
-/

namespace PlanGuard.Pattern

open Text (Ranges)

/-- A set as it was read, with how deeply it nests. -/
structure NestedSet where
  ranges : Ranges
  depth : Nat

inductive SetOperation where
  | inter
  | minus
  | symmetric

def SetOperation.apply : SetOperation → Ranges → Ranges → Ranges
  | .inter => Ranges.inter
  | .minus => Ranges.minus
  | .symmetric => Ranges.symmetric

/-- A set whose closing bracket has not been read. -/
structure OpenSet where
  negated : Bool
  /-- What the members being read will be combined with. -/
  left : Option (SetOperation × NestedSet) := none
  /-- The members read since, newest first. -/
  members : List NestedSet := []

namespace OpenSet

def add (set : OpenSet) (ranges : Ranges) (depth : Nat) : OpenSet :=
  { set with members := ⟨ranges, depth⟩ :: set.members }

def union (set : OpenSet) : NestedSet :=
  let depth := set.members.foldl (fun depth member => max depth member.depth) 0
  { ranges := Ranges.normalize (set.members.flatMap (·.ranges))
    depth := if set.members.length < 2 then depth else depth + 1 }

def combined (flags : Flags) (set : OpenSet) : NestedSet :=
  let right := set.union
  match set.left with
  | none => right
  | some (operation, left) =>
      { ranges := operation.apply (flags.fold left.ranges) (flags.fold right.ranges)
        depth := max left.depth right.depth + 1 }

/-- What has been read becomes the left side of an operation. -/
def operate (flags : Flags) (operation : SetOperation) (set : OpenSet) : OpenSet :=
  { negated := set.negated, left := some (operation, set.combined flags) }

def close (flags : Flags) (set : OpenSet) : Option NestedSet :=
  let inner := set.combined flags
  (flags.complete set.negated inner.ranges).map fun ranges =>
    { ranges, depth := inner.depth + 1 }

end OpenSet

namespace Brackets

/-- Dashes in front of all members are members themselves, `fuel` at most. -/
def leadingDashes (flags : Flags) : (fuel : Nat) → OpenSet → List Char →
    OpenSet × List Char
  | fuel + 1, set, '-' :: rest =>
      leadingDashes flags fuel (set.add (singleton 45) 0) (flags.skip rest)
  | _, set, letters => (set, letters)

def begin (flags : Flags) (letters : List Char) : OpenSet × List Char :=
  let (negated, letters) :=
    match flags.skip letters with
    | '^' :: rest => (true, flags.skip rest)
    | letters => (false, letters)
  let (set, letters) := leadingDashes flags letters.length { negated } letters
  match set.members, letters with
  | [], ']' :: rest => (set.add (singleton 93) 0, flags.skip rest)
  | _, letters => (set, letters)

/-- A class of ASCII by name, after a bracket, with what follows it. -/
def namedClass? (letters : List Char) : Option (Bool × Ranges × List Char) :=
  match letters with
  | ':' :: rest =>
      let (negated, rest) :=
        match rest with
        | '^' :: rest => (true, rest)
        | rest => (false, rest)
      let name := rest.takeWhile (· != ':')
      match rest.drop name.length with
      | ':' :: ']' :: rest =>
          (Named.ascii? (String.ofList name)).map fun ranges => (negated, ranges, rest)
      | _ => none
  | _ => none

def atom (flags : Flags) : List Char → Option (Atom × List Char)
  | [] => none
  | '\\' :: rest => Escape.read flags rest
  | c :: rest => some (.character c false, rest)

/-- A character as an end of a range. -/
def endpoint? (flags : Flags) : Atom → Option Nat
  | .character c _ =>
      if flags.unicode || c.toNat < 128 then some c.toNat else none
  | _ => none

/-- A single member as a set. -/
def memberSet? (flags : Flags) : Atom → Option Ranges
  | .set ranges => some ranges
  | other => (endpoint? flags other).map singleton

/-- A dash here makes a range, since something to end it follows. -/
def beginsRange (flags : Flags) (afterDash : List Char) : Bool :=
  match flags.skip afterDash with
  | ']' :: _ | '-' :: _ => false
  | _ => true

def member (flags : Flags) (letters : List Char) : Option (Ranges × List Char) := do
  let (first, rest) ← atom flags letters
  let rest := flags.skip rest
  let single : Option (Ranges × List Char) :=
    (memberSet? flags first).map fun ranges => (ranges, rest)
  match rest with
  | '-' :: after =>
      if beginsRange flags after then
        let (second, rest) ← atom flags (flags.skip after)
        let low ← endpoint? flags first
        let high ← endpoint? flags second
        if low ≤ high then some ([(low, high)], rest) else none
      else single
  | _ => single

/--
Reads a set to its end, given the sets around it, innermost first.  Each step
takes at least one character, so the length of the text is fuel enough.
-/
def read (flags : Flags) : (fuel : Nat) → OpenSet → List OpenSet → List Char →
    Option (NestedSet × List Char)
  | 0, _, _, _ => none
  | fuel + 1, set, outer, letters =>
      match flags.skip letters with
      | [] => none
      | '[' :: rest =>
          match namedClass? rest with
          | some (negated, ranges, rest) =>
              (flags.complete negated ranges).bind fun ranges =>
                read flags fuel (set.add ranges 0) outer rest
          | none =>
              let (inner, rest) := begin flags rest
              read flags fuel inner (set :: outer) rest
      | ']' :: rest =>
          (set.close flags).bind fun closed =>
            match outer with
            | [] => some (closed, rest)
            | parent :: outer =>
                read flags fuel (parent.add closed.ranges closed.depth) outer rest
      | '&' :: '&' :: rest => read flags fuel (set.operate flags .inter) outer rest
      | '-' :: '-' :: rest => read flags fuel (set.operate flags .minus) outer rest
      | '~' :: '~' :: rest => read flags fuel (set.operate flags .symmetric) outer rest
      | letters =>
          (member flags letters).bind fun (ranges, rest) =>
            read flags fuel (set.add ranges 0) outer rest

def set (flags : Flags) (letters : List Char) : Option (NestedSet × List Char) :=
  let (set, rest) := begin flags letters
  read flags (letters.length + 1) set [] rest

end Brackets

end PlanGuard.Pattern
