import PlanGuard.Capture
import PlanGuard.Proofs.Text.Clip

/-!
# What a buffer holds

A buffer holds the first bytes of all that was pushed, and knows whether there was
more.  How the bytes were cut into pushes leaves no trace in it.
-/

namespace PlanGuard

namespace Buffer

/-- The buffer holds the beginning of these bytes, and says so if they go on. -/
structure Holds (buffer : Buffer) (all : List UInt8) : Prop where
  bytes : buffer.bytes.toList = all.take buffer.limit
  truncated : buffer.truncated = true ↔ buffer.limit < all.length

@[simp] theorem limit_push (buffer : Buffer) (chunk : List UInt8) :
    (buffer.push chunk).limit = buffer.limit :=
  rfl

theorem holds_empty (limit : Nat) : Holds { limit } [] where
  bytes := by simp
  truncated := by simp

theorem Holds.size {buffer : Buffer} {all : List UInt8} (holds : buffer.Holds all) :
    buffer.bytes.size = min buffer.limit all.length := by
  rw [← Array.length_toList, holds.bytes, List.length_take]

theorem Holds.push {buffer : Buffer} {all : List UInt8} (holds : buffer.Holds all)
    (chunk : List UInt8) : (buffer.push chunk).Holds (all ++ chunk) where
  bytes := by
    have room : buffer.limit - min buffer.limit all.length = buffer.limit - all.length := by
      omega
    unfold Buffer.push
    rw [Array.toList_appendList, holds.bytes, holds.size, room, List.take_append]
  truncated := by
    have size := holds.size
    rw [limit_push, List.length_append]
    unfold Buffer.push
    rw [Bool.or_eq_true, decide_eq_true_iff, holds.truncated, size]
    omega

@[simp] theorem limit_foldl_push (buffer : Buffer) (chunks : List (List UInt8)) :
    (chunks.foldl push buffer).limit = buffer.limit := by
  induction chunks generalizing buffer with
  | nil => rfl
  | cons chunk rest ih => rw [List.foldl_cons, ih, limit_push]

/-- Pushes add up, whatever their sizes. -/
theorem Holds.foldl_push {buffer : Buffer} {all : List UInt8} (holds : buffer.Holds all)
    (chunks : List (List UInt8)) :
    (chunks.foldl Buffer.push buffer).Holds (all ++ chunks.flatten) := by
  induction chunks generalizing buffer all with
  | nil => rwa [List.flatten_nil, List.append_nil]
  | cons chunk rest ih =>
      rw [List.foldl_cons, List.flatten_cons, ← List.append_assoc]
      exact ih (holds.push chunk)

/-- The limit and what was pushed determine a buffer. -/
theorem Holds.unique {first second : Buffer} {all : List UInt8} (holds : first.Holds all)
    (other : second.Holds all) (limit : first.limit = second.limit) : first = second := by
  have bytes : first.bytes = second.bytes := by
    rw [← Array.toList_inj, holds.bytes, other.bytes, limit]
  have truncated : first.truncated = second.truncated := by
    rw [Bool.eq_iff_iff, holds.truncated, other.truncated, limit]
  cases first
  cases second
  simp only at limit bytes truncated
  rw [limit, bytes, truncated]

theorem Holds.finish_of_le {buffer : Buffer} {all : List UInt8} (holds : buffer.Holds all)
    (fits : all.length ≤ buffer.limit) :
    buffer.truncated = false ∧ buffer.finish = Text.Utf8.decode all := by
  have whole : buffer.truncated = false := by
    rw [Bool.eq_false_iff]
    intro cut
    exact absurd (holds.truncated.mp cut) (Nat.not_lt.mpr fits)
  refine ⟨whole, ?_⟩
  unfold finish
  rw [whole, if_neg Bool.false_ne_true, holds.bytes, List.take_of_length_le fits]

theorem Holds.finish_of_lt {buffer : Buffer} {all : List UInt8} (holds : buffer.Holds all)
    (exceeds : buffer.limit < all.length) :
    buffer.truncated = true ∧
      buffer.finish = Text.Utf8.clip buffer.limit
        (Text.Utf8.decode (all.take buffer.limit)) ++ marker := by
  have cut : buffer.truncated = true := holds.truncated.mpr exceeds
  refine ⟨cut, ?_⟩
  unfold finish
  rw [cut, if_pos rfl, holds.bytes]

/--
What is pushed into a buffer, in whatever pieces, leaves its first bytes in it, as
many as the limit lets in, and the buffer is truncated exactly if there were more.
Its text depends on the limit and on all that was pushed: it is the reading of that
as UTF-8 or, if there was too much, the longest beginning within the limit of the
reading of what was kept, and the marker.  The search for the end of that beginning
ends inside the text.
-/
theorem pushed_holds (limit : Nat) (chunks : List (List UInt8)) :
    let buffer := chunks.foldl push { limit }
    let all := chunks.flatten
    buffer.bytes.toList = all.take (min limit all.length) ∧
    (buffer.truncated = true ↔ limit < all.length) ∧
    (∀ others : List (List UInt8), others.flatten = all →
      (others.foldl push { limit }).finish = buffer.finish ∧
        (others.foldl push { limit }).truncated = buffer.truncated) ∧
    (all.length ≤ limit →
      buffer.truncated = false ∧ buffer.finish = Text.Utf8.decode all) ∧
    (limit < all.length →
      let text := Text.Utf8.decode (all.take limit)
      buffer.truncated = true ∧
      buffer.finish.utf8ByteSize ≤ limit + marker.utf8ByteSize ∧
      (∃ kept, buffer.finish = kept ++ marker ∧
        Text.Utf8.LongestWithin limit text kept) ∧
      ∃ stop, Text.Utf8.lastBoundary? text limit = some stop ∧
        stop.offset.byteIdx ≤ limit) := by
  intro buffer all
  have holds : buffer.Holds all := (holds_empty limit).foldl_push chunks
  have limited : buffer.limit = limit := limit_foldl_push _ chunks
  refine ⟨?_, limited ▸ holds.truncated, ?_, fun fits => holds.finish_of_le (limited ▸ fits), ?_⟩
  · rw [holds.bytes, limited, Nat.min_def]
    split
    · rfl
    next beyond => rw [List.take_of_length_le (by omega), List.take_of_length_le (by omega)]
  · intro others same
    have equal : others.foldl push { limit } = buffer :=
      Holds.unique (same ▸ (holds_empty limit).foldl_push others) holds
        (by rw [limit_foldl_push, limited])
    rw [equal]
    exact ⟨rfl, rfl⟩
  · intro exceeds text
    obtain ⟨cut, finish⟩ := holds.finish_of_lt (limited ▸ exceeds)
    rw [limited] at finish
    have longest := Text.Utf8.longestWithin_clip limit text
    obtain ⟨stop, found, near, -⟩ := Text.Utf8.exists_lastBoundary? text limit
    refine ⟨cut, ?_, ⟨_, finish, longest⟩, stop, found, near⟩
    rw [finish, String.utf8ByteSize_append]
    exact Nat.add_le_add_right longest.fits _

/--
Of four bytes pushed in four pieces, two are kept, and they read as a letter and a
replacement character of three bytes; so only the letter stays before the marker.
-/
theorem pushed_pieces :
    let pieces : List (List UInt8) := [[0x61], [], [0xE2, 0x82], [0xAC]]
    let buffer := pieces.foldl push { limit := 2 }
    2 < pieces.flatten.length ∧ buffer.truncated = true ∧
      buffer.bytes.toList = [0x61, 0xE2] ∧ buffer.finish = "a" ++ marker ∧
      ([[0x61, 0xE2, 0x82, 0xAC]].foldl push { limit := 2 }).finish = buffer.finish := by
  intro pieces buffer
  obtain ⟨bytes, -, others, -, cut⟩ := pushed_holds 2 pieces
  exact ⟨by decide, (cut (by decide)).1, bytes, by decide +kernel,
    (others [[0x61, 0xE2, 0x82, 0xAC]] rfl).1⟩

end Buffer

end PlanGuard
