import PlanGuard.Capture

/-!
# Reading a pipe

A pipe delivers its bytes in reads of any size.  Its reader takes bytes up to a newline,
over as many reads as it needs but no more bytes than one line event may have, and hands
them on.  With what is left it does so again, until nothing is left.
-/

namespace PlanGuard

def newline : UInt8 := 10

/--
Bytes from the front of some reads, up to a newline or until there is no more room, and
what is left of the reads.
-/
def takeLine : (room : Nat) → List (List UInt8) → List UInt8 × List (List UInt8)
  | _, [] => ([], [])
  | room, read :: rest =>
      match (read.take room).findIdx? (· == newline) with
      | some place => (read.take (place + 1), read.drop (place + 1) :: rest)
      | none =>
          if room ≤ read.length then (read.take room, read.drop room :: rest)
          else
            let (more, left) := takeLine (room - read.length) rest
            (read ++ more, left)

theorem takeLine_flatten (room : Nat) (reads : List (List UInt8)) :
    (takeLine room reads).1 ++ (takeLine room reads).2.flatten = reads.flatten := by
  induction reads generalizing room with
  | nil => rfl
  | cons read rest ih =>
      unfold takeLine
      split
      · rw [List.flatten_cons, ← List.append_assoc, List.take_append_drop, List.flatten_cons]
      · split
        · rw [List.flatten_cons, ← List.append_assoc, List.take_append_drop,
            List.flatten_cons]
        · dsimp only
          rw [List.append_assoc, ih, List.flatten_cons]

/-- What a reader hands on of some reads, piece by piece. -/
def readLines (reads : List (List UInt8)) : List (List UInt8) :=
  let taken := takeLine maxLineBytes reads
  if taken.1 = [] then [] else taken.1 :: readLines taken.2
termination_by reads.flatten.length
decreasing_by
  -- What was taken is not in what is left.
  rw [← takeLine_flatten maxLineBytes reads, List.length_append]
  exact Nat.lt_add_of_pos_left (List.length_pos_iff.mpr (by assumption))

end PlanGuard
