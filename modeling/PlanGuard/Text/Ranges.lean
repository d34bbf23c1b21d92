/-!
# Sets of characters

A set of code points as sorted ranges, with the set operations.  Large sets,
such as the properties of Unicode, are written as text: ranges in hexadecimal,
separated by blanks.
-/

namespace PlanGuard.Text

/-- Code points in ranges with both ends included. -/
abbrev Ranges := List (Nat × Nat)

namespace Ranges

def greatest : Nat := 0x10FFFF

def hexDigit (c : Char) : Nat :=
  let n := c.toNat
  if n < 58 then n - 48 else n - 87

structure Scan where
  done : List (Nat × Nat) := []
  start : Option Nat := none
  current : Nat := 0

namespace Scan

def finish (scan : Scan) : Scan :=
  { done := (scan.start.getD scan.current, scan.current) :: scan.done }

def step (scan : Scan) (c : Char) : Scan :=
  if c = ' ' || c = '\n' then scan.finish
  else if c = '-' then { scan with start := some scan.current, current := 0 }
  else { scan with current := scan.current * 16 + hexDigit c }

end Scan

/-- Reads a table such as `30-39 5f`. -/
def parse (table : String) : Ranges :=
  (table.foldl Scan.step {}).finish.done.reverse

/-- Joins ranges that overlap or touch, given in order of their starts. -/
def joinFrom (low high : Nat) : List (Nat × Nat) → Ranges
  | [] => [(low, high)]
  | (start, stop) :: rest =>
      if start ≤ high + 1 then joinFrom low (max high stop) rest
      else (low, high) :: joinFrom start stop rest

def normalize (ranges : List (Nat × Nat)) : Ranges :=
  match ranges.mergeSort (fun a b => a.1 ≤ b.1) with
  | [] => []
  | (low, high) :: rest => joinFrom low high rest

/-- What lies outside sorted ranges, from `start` on. -/
def outsideFrom (start : Nat) : List (Nat × Nat) → Ranges
  | [] => if start ≤ greatest then [(start, greatest)] else []
  | (low, high) :: rest =>
      if start < low then (start, low - 1) :: outsideFrom (high + 1) rest
      else outsideFrom (high + 1) rest

def complement (ranges : Ranges) : Ranges :=
  outsideFrom 0 ranges

def union (first second : Ranges) : Ranges :=
  normalize (first ++ second)

def inter (first second : Ranges) : Ranges :=
  complement (union (complement first) (complement second))

def minus (first second : Ranges) : Ranges :=
  inter first (complement second)

def symmetric (first second : Ranges) : Ranges :=
  minus (union first second) (inter first second)

def contains (ranges : Ranges) (n : Nat) : Bool :=
  ranges.any fun range => range.1 ≤ n && n ≤ range.2

/-- Searches sorted ranges between two positions by halving. -/
def search (ranges : Array (Nat × Nat)) (n : Nat) :
    (fuel low high : Nat) → Bool
  | 0, _, _ => false
  | fuel + 1, low, high =>
      if low < high then
        let middle := (low + high) / 2
        match ranges[middle]? with
        | none => false
        | some range =>
            if n < range.1 then search ranges n fuel low middle
            else if range.2 < n then search ranges n fuel (middle + 1) high
            else true
      else false

def member (ranges : Array (Nat × Nat)) (n : Nat) : Bool :=
  search ranges n (ranges.size + 1) 0 ranges.size

end Ranges

end PlanGuard.Text
