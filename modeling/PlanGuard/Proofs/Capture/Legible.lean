import PlanGuard.Proofs.Capture.Arrival
import PlanGuard.Proofs.Text.Flaws

/-!
# What a buffer reads as

A buffer is filled with bytes and read as text.  Of output that is text it shows the
characters in front of the limit; the one that the limit is inside is lost, and leaves
a replacement character only where that fits.  Output that is no text can be read as
more bytes than it was: what is marked as cut is held to the limit, and what is whole is
as long as its bytes and what their flaws add.
-/

namespace PlanGuard

open Text.Utf8 (CutAt LongestWithin Reads Segment encode decode clip replacement)

namespace Buffer

/-! ## Output that is text -/

/--
What the reading of a text that was cut is held to: the characters in front of the cut,
and a replacement character where three bytes of a character were kept, which is as many
as the replacement has.
-/
theorem clip_take {limit : Nat} {text kept : String} {next : Char}
    (cut : CutAt limit text kept next) :
    clip limit (decode ((encode text).take limit)) =
      if next.utf8Size = 4 ∧ limit = kept.utf8ByteSize + 3 then kept ++ "\uFFFD" else kept := by
  have reached := cut.reached
  have inside := cut.inside
  have small := Char.utf8Size_le_four next
  have pushed : kept.push replacement = kept ++ "\uFFFD" := by
    rw [String.push_eq_append]
    rfl
  have size : (kept ++ "\uFFFD").utf8ByteSize = kept.utf8ByteSize + 3 := by
    rw [String.utf8ByteSize_append]
    rfl
  rw [cut.decode_take, pushed]
  by_cases front : limit = kept.utf8ByteSize
  · rw [if_pos front, if_neg (by omega)]
    exact Text.Utf8.clip_of_fits reached
  · rw [if_neg front]
    by_cases fits : limit = kept.utf8ByteSize + 3
    · rw [if_pos ⟨by omega, fits⟩]
      exact Text.Utf8.clip_of_fits (by omega)
    · rw [if_neg (fun both => fits both.2)]
      have replaced : CutAt limit (kept ++ "\uFFFD") kept replacement := by
        refine ⟨⟨[], ?_⟩, reached, ?_⟩
        · rw [String.toList_append]
          rfl
        · rw [Text.Utf8.utf8Size_replacement]
          omega
      exact (Text.Utf8.longestWithin_clip limit _).unique replaced.longestWithin

/--
What is captured of a text, in whatever pieces its bytes come.  A text within the limit
is captured as it is.  Of any other the longest beginning within the limit is, in whole
characters, and the marker follows it; between them stands a replacement character
if the limit is after three bytes of a character of four, and nothing otherwise.
-/
theorem captured_text (limit : Nat) (text : String) (pieces : List (List UInt8))
    (whole : pieces.flatten = encode text) :
    let buffer := pieces.foldl push { limit }
    (text.utf8ByteSize ≤ limit → buffer.finish = text ∧ buffer.truncated = false) ∧
    (limit < text.utf8ByteSize →
      ∃ kept next, CutAt limit text kept next ∧ LongestWithin limit text kept ∧
        buffer.truncated = true ∧
        buffer.finish =
          (if next.utf8Size = 4 ∧ limit = kept.utf8ByteSize + 3 then kept ++ "\uFFFD"
            else kept) ++ marker) := by
  intro buffer
  have holds : buffer.Holds (encode text) := whole ▸ (holds_empty limit).foldl_push pieces
  have limited : buffer.limit = limit := limit_foldl_push _ pieces
  constructor
  · intro fits
    obtain ⟨complete, shown⟩ :=
      holds.finish_of_le (by rw [limited, Text.Utf8.length_encode]; exact fits)
    rw [shown, Text.Utf8.decode_encode]
    exact ⟨rfl, complete⟩
  · intro exceeds
    obtain ⟨kept, next, cut⟩ := Text.Utf8.exists_cutAt exceeds
    obtain ⟨truncated, shown⟩ :=
      holds.finish_of_lt (by rw [limited, Text.Utf8.length_encode]; exact exceeds)
    refine ⟨kept, next, cut, cut.longestWithin, truncated, ?_⟩
    rw [shown, limited, clip_take cut]

/-- Three of the four bytes of a character are kept, in two pieces, and then all of them. -/
theorem captured_smile :
    let pieces : List (List UInt8) := [[0x61, 0xF0], [0x9F], [0x98, 0x80, 0x62]]
    pieces.flatten = encode "a😀b" ∧ 4 < "a😀b".utf8ByteSize ∧
      (pieces.foldl push { limit := 4 }).finish = "a�" ++ marker ∧
      "a😀b".utf8ByteSize ≤ 6 ∧ (pieces.foldl push { limit := 6 }).finish = "a😀b" := by
  intro pieces
  have whole : pieces.flatten = encode "a😀b" := by decide +kernel
  have exceeds : 4 < "a😀b".utf8ByteSize := by decide
  have fits : "a😀b".utf8ByteSize ≤ 6 := by decide
  refine ⟨whole, exceeds, ?_, fits, ((captured_text 6 _ pieces whole).1 fits).1⟩
  obtain ⟨kept, next, cut, longest, -, shown⟩ := (captured_text 4 _ pieces whole).2 exceeds
  have here : CutAt 4 "a😀b" "a" '😀' := ⟨⟨['b'], rfl⟩, by decide, by decide⟩
  obtain rfl : kept = "a" := longest.unique here.longestWithin
  obtain ⟨rest, split⟩ := cut.split
  obtain rfl : '😀' = next := (List.cons.inj (List.cons.inj split).2).1
  rw [shown, if_pos (by decide)]
  decide

/-! ## Output of any kind -/

def Bounded (limit : Nat) (text : String) (truncated : Bool) : Prop :=
  text.utf8ByteSize ≤ limit + marker.utf8ByteSize ∧
    (truncated = false → text.utf8ByteSize ≤ limit)

/-- How long the text is that a limit leaves of these bytes. -/
structure Measured (limit : Nat) (all : List UInt8) (text : String) (truncated : Bool) :
    Prop where
  /-- It is within the limit if it is cut, or if the bytes and what their flaws add are. -/
  bounded_iff : ∃ segments, Reads segments all (decode all).toList ∧
    (Bounded limit text truncated ↔
      limit < all.length ∨ all.length + (segments.map Segment.growth).sum ≤ limit)
  /-- Text has no flaws. -/
  legible : (∃ original, encode original = all) → Bounded limit text truncated
  most : text.utf8ByteSize ≤ max (limit + marker.utf8ByteSize) (3 * limit)

theorem Holds.bounded_of_lt {buffer : Buffer} {all : List UInt8} (holds : buffer.Holds all)
    (exceeds : buffer.limit < all.length) :
    Bounded buffer.limit buffer.finish buffer.truncated := by
  obtain ⟨cut, shown⟩ := holds.finish_of_lt exceeds
  rw [cut, shown]
  refine ⟨?_, fun impossible => ?_⟩
  · rw [String.utf8ByteSize_append]
    exact Nat.add_le_add_right (Text.Utf8.longestWithin_clip _ _).fits _
  · cases impossible

theorem Holds.bounded_iff_of_le {buffer : Buffer} {all : List UInt8} (holds : buffer.Holds all)
    (fits : all.length ≤ buffer.limit) :
    Bounded buffer.limit buffer.finish buffer.truncated ↔
      (decode all).utf8ByteSize ≤ buffer.limit := by
  obtain ⟨whole, shown⟩ := holds.finish_of_le fits
  rw [whole, shown]
  constructor
  · intro bounded
    exact bounded.2 rfl
  · intro bounded
    exact ⟨Nat.le_add_right_of_le bounded, fun _ => bounded⟩

theorem Holds.measured {buffer : Buffer} {all : List UInt8} (holds : buffer.Holds all) :
    Measured buffer.limit all buffer.finish buffer.truncated := by
  obtain ⟨segments, reads⟩ := Text.Utf8.exists_reads_decode all
  have size : (decode all).utf8ByteSize =
      all.length + (segments.map Segment.growth).sum := by
    rw [← reads.utf8Len_eq, ← String.utf8ByteSize_ofList, String.ofList_toList]
  by_cases exceeds : buffer.limit < all.length
  · have bounded := holds.bounded_of_lt exceeds
    refine ⟨⟨segments, reads, ?_⟩, fun _ => bounded, Nat.le_trans bounded.1 (Nat.le_max_left _ _)⟩
    exact iff_of_true bounded (.inl exceeds)
  · have fits : all.length ≤ buffer.limit := Nat.le_of_not_lt exceeds
    have bounded := holds.bounded_iff_of_le fits
    refine ⟨⟨segments, reads, ?_⟩, ?_, ?_⟩
    · rw [bounded, size, or_iff_right exceeds]
    · rintro ⟨original, rfl⟩
      rw [bounded, Text.Utf8.decode_encode, ← Text.Utf8.length_encode]
      exact fits
    · have thrice := reads.utf8Len_le
      rw [(holds.finish_of_le fits).2, size, ← reads.utf8Len_eq]
      omega

theorem measured_push (limit : Nat) (pieces : List (List UInt8)) :
    let buffer := pieces.foldl push { limit }
    Measured limit pieces.flatten buffer.finish buffer.truncated := by
  intro buffer
  have holds : buffer.Holds pieces.flatten := (holds_empty limit).foldl_push pieces
  have limited : buffer.limit = limit := limit_foldl_push _ pieces
  exact limited ▸ holds.measured

/--
How long captured output can be, whatever its bytes.  It is within the limit, and the
marker if it is cut, unless it is whole and no text: then what its flaws add can take it
beyond the limit, and to three times the limit at most.  The same holds of the answer to a
request whose child was started.
-/
theorem output_measured (limit : Nat) (pieces : List (List UInt8)) :
    (let buffer := pieces.foldl push { limit }
     Measured limit pieces.flatten buffer.finish buffer.truncated) ∧
    ∀ (request : Request) (watched : Bool) (trigger : Trigger) (machine : Machine)
      (life : Life) (failure : Option Failure),
      let reply := request.answer watched trigger machine life failure
      Measured request.maxOutputBytes (life.chunks.map Chunk.bytes).flatten reply.output
        reply.truncated := by
  refine ⟨measured_push limit pieces, ?_⟩
  intro request watched trigger machine life failure reply
  obtain ⟨final, -, -, -, capture, output, truncated, -⟩ :=
    request.answer_collected watched trigger machine life failure
  rw [output, truncated, capture, Capture.buffer_collect]
  exact measured_push _ _

/--
Output that is no text can go beyond the limit without a mark: of three bytes within a
limit of four, two are read as a replacement character each.
-/
theorem whole_output_exceeds_limit :
    ¬ ∀ (limit : Nat) (pieces : List (List UInt8)),
      let buffer := pieces.foldl push { limit }
      Bounded limit buffer.finish buffer.truncated := by
  intro bounded
  have within := (bounded 4 [[0x61, 0xFF, 0xFF]]).2 rfl
  have shown : ([[0x61, 0xFF, 0xFF]].foldl push { limit := 4 }).finish.utf8ByteSize = 7 := by
    decide +kernel
  rw [shown] at within
  exact absurd within (by decide)

end Buffer

end PlanGuard
