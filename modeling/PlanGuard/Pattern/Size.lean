import PlanGuard.Pattern.Expr

/-!
# The size of patterns

A pattern stands for an automaton that reads UTF-8, and one that would take too
much memory is refused.  The size is counted in bytes: each state takes 32, and
counted repetitions repeat the states of what they repeat.
-/

namespace PlanGuard.Pattern

open Text (Ranges)

/-- Bytes of an encoded character, each as a range. -/
abbrev ByteRanges := List (Nat × Nat)

namespace ByteRanges

/--
Cuts the code points from `low` to `high`, all written with `count` bytes after
the first, into pieces in which each byte ranges on its own.  `mark` is added
to the first byte, and 0x80 to the others.
-/
def pieces : (count mark low high : Nat) → List ByteRanges
  | 0, mark, low, high => [[(mark + low, mark + high)]]
  | count + 1, mark, low, high =>
      let unit := Nat.pow 64 (count + 1)
      let first := low / unit
      let last := high / unit
      let withHead (head : Nat) (tails : List ByteRanges) : List ByteRanges :=
        tails.map ((mark + head, mark + head) :: ·)
      if first = last then
        withHead first (pieces count 0x80 (low % unit) (high % unit))
      else
        let front :=
          if low % unit = 0 then []
          else withHead first (pieces count 0x80 (low % unit) (unit - 1))
        let back :=
          if high % unit = unit - 1 then []
          else withHead last (pieces count 0x80 0 (high % unit))
        let start := if low % unit = 0 then first else first + 1
        let stop := if high % unit = unit - 1 then last + 1 else last
        let middle : List ByteRanges :=
          if start < stop then
            [(mark + start, mark + (stop - 1)) :: List.replicate (count + 1) (0x80, 0xBF)]
          else []
        front ++ middle ++ back

/-- The code points that UTF-8 writes with the same number of bytes. -/
def lengths : List (Nat × Nat × Nat × Nat) :=
  [(0, 0, 0, 0x7F), (1, 0xC0, 0x80, 0x7FF), (2, 0xE0, 0x800, 0xD7FF),
    (2, 0xE0, 0xE000, 0xFFFF), (3, 0xF0, 0x10000, 0x10FFFF)]

def ofRange (range : Nat × Nat) : List ByteRanges :=
  lengths.flatMap fun (count, mark, low, high) =>
    let low := max low range.1
    let high := min high range.2
    if low ≤ high then pieces count mark low high else []

/-- How many ranges two pieces share at their beginning. -/
def shared : ByteRanges → ByteRanges → Nat
  | first :: rest, other :: others =>
      if first = other then shared rest others + 1 else 0
  | _, _ => 0

/-- The states for pieces in order, where each shares those of the one before. -/
def states : (previous : ByteRanges) → List ByteRanges → Nat
  | _, [] => 0
  | previous, piece :: rest =>
      piece.length - shared previous piece + states piece rest

end ByteRanges

/-- The bytes that one state takes. -/
def stateSize : Nat := 32

def setSize (ranges : Ranges) : Nat :=
  match ranges with
  | [(low, high)] =>
      if low = high then
        stateSize * ((ByteRanges.ofRange (low, high)).map List.length).foldl (· + ·) 0
      else sizeOfMany ranges
  | _ => sizeOfMany ranges
where
  sizeOfMany (ranges : Ranges) : Nat :=
    if ranges.all (·.2 < 128) then stateSize * 2 + 8 * ranges.length
    else
      let pieces := ranges.flatMap ByteRanges.ofRange
      stateSize * (ByteRanges.states [] pieces + 2) + 4 * pieces.length

/-- A choice between going on and leaving takes a state and two entries. -/
def branchSize : Nat := stateSize + 8

def Expr.size : Expr → Nat
  | .empty => stateSize
  | .set ranges => setSize ranges
  | .look _ => stateSize
  | .seq first second => first.size + second.size
  | .alt first second => first.size + second.size + branchSize
  | .loop body least most =>
      let once := body.size
      if body.isVoid then once + branchSize
      else
        match most with
        | none => max least 1 * once + branchSize
        | some most => least * once + (most - least) * (once + branchSize) + stateSize
  | .group body => body.size + 2 * stateSize

def maxSize : Nat := 10485760

end PlanGuard.Pattern
