import PlanGuard.Proofs.Text.Clip
import Mathlib.Tactic.IntervalCases

/-!
# Bytes read as text

The reader takes one byte at a time, and what it has read after some bytes depends on
where it stands and not on how it came there.  The bytes of a character bring it from
between two characters to between two characters and give that character; part of them
leave it inside, and an end there reads as one replacement character.  So text that was
written as UTF-8 is read back, and a cut inside a character costs that character only.
-/

namespace PlanGuard.Text.Utf8

/-! ## Runs of the reader -/

def run (cursor : Cursor) : List UInt8 → Cursor × List Char
  | [] => (cursor, [])
  | b :: rest =>
      let (next, read) := step cursor b
      let (last, more) := run next rest
      (last, read ++ more)

theorem run_append (cursor : Cursor) (first second : List UInt8) :
    run cursor (first ++ second) =
      let (middle, read) := run cursor first
      let (last, more) := run middle second
      (last, read ++ more) := by
  induction first generalizing cursor with
  | nil => rfl
  | cons b rest ih =>
      simp only [List.cons_append, run, ih, List.append_assoc]

/-- What is read in all: the characters completed, and what an end inside one reads as. -/
def lettersFrom (cursor : Cursor) (bytes : List UInt8) : List Char :=
  let (last, read) := run cursor bytes
  read ++ finish last

def letters (bytes : List UInt8) : List Char :=
  lettersFrom .between bytes

theorem lettersFrom_cons (cursor : Cursor) (b : UInt8) (rest : List UInt8) :
    lettersFrom cursor (b :: rest) =
      (step cursor b).2 ++ lettersFrom (step cursor b).1 rest := by
  simp only [lettersFrom, run, List.append_assoc]

theorem foldl_push (text : String) (read : List Char) :
    read.foldl String.push text = text ++ String.ofList read := by
  induction read generalizing text with
  | nil => rw [List.foldl_nil, String.ofList_nil, String.append_empty]
  | cons c rest ih =>
      rw [List.foldl_cons, ih, ← String.toList_inj]
      simp

theorem foldl_feed (reader : Reader) (bytes : List UInt8) :
    bytes.foldl Reader.feed reader =
      { cursor := (run reader.cursor bytes).1
        text := reader.text ++ String.ofList (run reader.cursor bytes).2 } := by
  induction bytes generalizing reader with
  | nil => simp [run]
  | cons b rest ih =>
      rw [List.foldl_cons, ih]
      simp only [Reader.feed, run, foldl_push, String.ofList_append, String.append_assoc]

theorem decode_eq (bytes : List UInt8) : decode bytes = String.ofList (letters bytes) := by
  unfold decode Reader.close letters lettersFrom
  rw [foldl_feed, foldl_push]
  simp

/-! ## The bytes of one character -/

def tailByte (digit : Nat) : UInt8 :=
  UInt8.ofNat (digit + 128)

/-- Six bits of a number can stand in a byte between these two. -/
structure Fits (low high : UInt8) (digit : Nat) : Prop where
  small : digit < 64
  least : low.toNat ≤ digit + 128
  greatest : digit + 128 ≤ high.toNat

namespace Fits

variable {low high : UInt8} {value digit : Nat}

theorem toNat (fits : Fits low high digit) : (tailByte digit).toNat = digit + 128 := by
  have small := fits.small
  rw [tailByte, UInt8.toNat_ofNat']
  omega

theorem within (fits : Fits low high digit) :
    low ≤ tailByte digit ∧ tailByte digit ≤ high := by
  rw [UInt8.le_iff_toNat_le, UInt8.le_iff_toNat_le, fits.toNat]
  exact ⟨fits.least, fits.greatest⟩

theorem step_last (fits : Fits low high digit) :
    step (.inside 1 low high value) (tailByte digit) =
      (.between, [Char.ofNat (value * 64 + digit)]) := by
  simp [step, fits.within, fits.toNat]

theorem step_more (fits : Fits low high digit) (owed : Nat) :
    step (.inside (owed + 2) low high value) (tailByte digit) =
      (.inside (owed + 1) 0x80 0xBF (value * 64 + digit), []) := by
  simp [step, fits.within, fits.toNat]

/-- Bytes after the second are not bounded any further. -/
theorem of_lt (small : digit < 64) : Fits 0x80 0xBF digit :=
  ⟨small, Nat.le_add_left 128 digit, Nat.add_le_add_right (Nat.le_of_lt_succ small) 128⟩

end Fits

/-- From inside a character, these bytes and no fewer complete the one of this number. -/
inductive Completes : Cursor → List UInt8 → Nat → Prop where
  | last {low high : UInt8} {value digit : Nat} (fits : Fits low high digit) :
      Completes (.inside 1 low high value) [tailByte digit] (value * 64 + digit)
  | more {low high : UInt8} {owed value digit number : Nat} {rest : List UInt8}
      (fits : Fits low high digit)
      (further : Completes (.inside (owed + 1) 0x80 0xBF (value * 64 + digit)) rest number) :
      Completes (.inside (owed + 2) low high value) (tailByte digit :: rest) number

namespace Completes

theorem run {cursor : Cursor} {bytes : List UInt8} {number : Nat}
    (completes : Completes cursor bytes number) :
    Utf8.run cursor bytes = (.between, [Char.ofNat number]) := by
  induction completes with
  | last fits => simp [Utf8.run, fits.step_last]
  | more fits further ih => simp [Utf8.run, fits.step_more, ih]

theorem run_take {cursor : Cursor} {bytes : List UInt8} {number : Nat}
    (completes : Completes cursor bytes number) (count : Nat) (fewer : count < bytes.length) :
    ∃ owed low high value,
      Utf8.run cursor (bytes.take count) = (.inside owed low high value, []) := by
  induction completes generalizing count with
  | last fits =>
      obtain rfl : count = 0 := Nat.lt_one_iff.mp fewer
      exact ⟨_, _, _, _, rfl⟩
  | more fits further ih =>
      cases count with
      | zero => exact ⟨_, _, _, _, rfl⟩
      | succ count =>
          obtain ⟨owed, low, high, value, reached⟩ := ih count (Nat.lt_of_succ_lt_succ fewer)
          refine ⟨owed, low, high, value, ?_⟩
          simp [Utf8.run, fits.step_more, reached]

end Completes

theorem fresh_of_two {n : Nat} (least : 2 ≤ n) (greatest : n < 32) :
    fresh (UInt8.ofNat (n + 192)) = (.inside 1 0x80 0xBF n, []) := by
  interval_cases n <;> rfl

/--
Inside a character after its first byte.  The next one is bounded after the least first
byte, where fewer bytes would do, and after one other: surrogates and numbers beyond the
greatest are left out there.
-/
def second (owed : Nat) (low : UInt8) (bounded : Nat) (high : UInt8) (n : Nat) : Cursor :=
  .inside owed (if n = 0 then low else 0x80) (if n = bounded then high else 0xBF) n

theorem fits_second {low high : UInt8} {n bounded digit : Nat} (small : digit < 64)
    (least : n = 0 → low.toNat ≤ digit + 128)
    (greatest : n = bounded → digit + 128 ≤ high.toNat) :
    Fits (if n = 0 then low else 0x80) (if n = bounded then high else 0xBF) digit := by
  refine ⟨small, ?_, ?_⟩
  · split
    next first => exact least first
    next => exact Nat.le_add_left 128 digit
  · split
    next last => exact greatest last
    next => exact Nat.add_le_add_right (Nat.le_of_lt_succ small) 128

theorem fresh_of_three {n : Nat} (greatest : n < 16) :
    fresh (UInt8.ofNat (n + 224)) = (second 2 0xA0 13 0x9F n, []) := by
  interval_cases n <;> rfl

theorem fresh_of_four {n : Nat} (greatest : n < 5) :
    fresh (UInt8.ofNat (n + 240)) = (second 3 0x90 4 0x8F n, []) := by
  interval_cases n <;> rfl

theorem fresh_of_one {n : Nat} (greatest : n < 128) :
    fresh (UInt8.ofNat n) = (.between, [Char.ofNat n]) := by
  have byte : (UInt8.ofNat n).toNat = n := by
    rw [UInt8.toNat_ofNat']
    omega
  have small : UInt8.ofNat n < 0x80 := by
    rw [UInt8.lt_iff_toNat_lt, byte]
    exact greatest
  unfold fresh begin
  rw [if_pos small, byte]
  rfl

theorem completes_two (number : Nat) (least : 128 ≤ number) (greatest : number < 2048) :
    ∃ cursor, fresh (UInt8.ofNat (number / 64 % 32 + 192)) = (cursor, []) ∧
      Completes cursor [tailByte (number % 64)] number := by
  have whole : number / 64 % 32 * 64 + number % 64 = number := by omega
  refine ⟨_, fresh_of_two (by omega) (by omega), ?_⟩
  have last : Completes (.inside 1 0x80 0xBF (number / 64 % 32))
      [tailByte (number % 64)] _ := .last (.of_lt (by omega))
  rwa [whole] at last

theorem completes_three (number : Nat) (least : 2048 ≤ number) (greatest : number < 65536)
    (valid : number < 0xD800 ∨ 0xDFFF < number) :
    ∃ cursor, fresh (UInt8.ofNat (number / 4096 % 16 + 224)) = (cursor, []) ∧
      Completes cursor
        [tailByte (number / 64 % 64), tailByte (number % 64)] number := by
  have whole : (number / 4096 % 16 * 64 + number / 64 % 64) * 64 + number % 64 = number := by
    omega
  have last : Completes (.inside 1 0x80 0xBF (number / 4096 % 16 * 64 + number / 64 % 64))
      [tailByte (number % 64)] _ := .last (.of_lt (by omega))
  rw [whole] at last
  refine ⟨_, fresh_of_three (by omega), .more (fits_second (by omega) ?_ ?_) last⟩
  · change _ → 160 ≤ _
    omega
  · change _ → _ ≤ 159
    omega

theorem completes_four (number : Nat) (least : 65536 ≤ number) (greatest : number < 0x110000) :
    ∃ cursor, fresh (UInt8.ofNat (number / 262144 % 8 + 240)) = (cursor, []) ∧
      Completes cursor
        [tailByte (number / 4096 % 64), tailByte (number / 64 % 64),
          tailByte (number % 64)] number := by
  have whole : ((number / 262144 % 8 * 64 + number / 4096 % 64) * 64 + number / 64 % 64) * 64 +
      number % 64 = number := by omega
  have last : Completes (.inside 1 0x80 0xBF
        ((number / 262144 % 8 * 64 + number / 4096 % 64) * 64 + number / 64 % 64))
      [tailByte (number % 64)] _ := .last (.of_lt (by omega))
  rw [whole] at last
  refine ⟨_, fresh_of_four (by omega),
    .more (fits_second (by omega) ?_ ?_) (.more (.of_lt (by omega)) last)⟩
  · change _ → 144 ≤ _
    omega
  · change _ → _ ≤ 143
    omega

/-- A character is a byte for itself, or a byte that begins it and bytes that complete it. -/
theorem begins_or_completes (c : Char) :
    (∃ byte, String.utf8EncodeChar c = [byte] ∧ fresh byte = (.between, [c])) ∨
    ∃ first rest cursor, String.utf8EncodeChar c = first :: rest ∧
      fresh first = (cursor, []) ∧ Completes cursor rest c.toNat := by
  have valid : c.val.toNat < 0xD800 ∨ 0xDFFF < c.val.toNat ∧ c.val.toNat < 0x110000 := c.valid
  unfold String.utf8EncodeChar
  dsimp only
  split
  next one =>
    have same : Char.ofNat c.val.toNat = c := Char.ofNat_toNat c
    refine .inl ⟨_, rfl, ?_⟩
    rw [fresh_of_one (Nat.lt_succ_of_le one), same]
  next beyond =>
    right
    split
    next two =>
      obtain ⟨cursor, begins, completes⟩ :=
        completes_two c.val.toNat (by omega) (by omega)
      exact ⟨_, _, cursor, rfl, begins, completes⟩
    next further =>
      split
      next three =>
        obtain ⟨cursor, begins, completes⟩ :=
          completes_three c.val.toNat (by omega) (by omega) (by omega)
        exact ⟨_, _, cursor, rfl, begins, completes⟩
      next last =>
        obtain ⟨cursor, begins, completes⟩ :=
          completes_four c.val.toNat (by omega) (by omega)
        exact ⟨_, _, cursor, rfl, begins, completes⟩

/-- The bytes of a character bring the reader back between characters. -/
theorem run_utf8EncodeChar (c : Char) :
    run .between (String.utf8EncodeChar c) = (.between, [c]) := by
  rcases begins_or_completes c with
    ⟨byte, encoded, reads⟩ | ⟨first, rest, cursor, encoded, begins, completes⟩
  · rw [encoded]
    simp [run, step, reads]
  · rw [encoded]
    simp [run, step, begins, completes.run]

theorem letters_take_utf8EncodeChar {c : Char} {count : Nat} (some' : 0 < count)
    (fewer : count < c.utf8Size) :
    letters ((String.utf8EncodeChar c).take count) = [replacement] := by
  rw [← String.length_utf8EncodeChar] at fewer
  obtain ⟨count, rfl⟩ := Nat.exists_eq_add_of_lt some'
  rcases begins_or_completes c with
    ⟨byte, encoded, -⟩ | ⟨first, rest, cursor, encoded, begins, completes⟩
  · rw [encoded, List.length_singleton] at fewer
    omega
  · rw [encoded, List.length_cons] at fewer
    obtain ⟨owed, low, high, value, reached⟩ := completes.run_take count (by omega)
    rw [encoded, Nat.zero_add, List.take_succ_cons]
    simp [letters, lettersFrom, run, step, begins, reached, finish]

/-! ## Text that was written as UTF-8 -/

theorem letters_append {first : List UInt8} {read : List Char}
    (reads : run .between first = (.between, read)) (second : List UInt8) :
    letters (first ++ second) = read ++ letters second := by
  unfold letters lettersFrom
  rw [run_append, reads]
  simp

theorem run_flatMap (text : List Char) :
    run .between (text.flatMap String.utf8EncodeChar) = (.between, text) := by
  induction text with
  | nil => rfl
  | cons c rest ih =>
      rw [List.flatMap_cons, run_append, run_utf8EncodeChar]
      dsimp only
      rw [ih]
      rfl

theorem encode_eq (text : String) : encode text = text.toList.flatMap String.utf8EncodeChar := by
  unfold encode
  rw [← String.utf8Encode_toList, List.utf8Encode, List.data_toByteArray]

theorem length_encode (text : String) : (encode text).length = text.utf8ByteSize := by
  rw [encode, Array.length_toList]
  rfl

theorem decode_encode (text : String) : decode (encode text) = text := by
  rw [decode_eq, encode_eq, letters, lettersFrom, run_flatMap]
  simp [finish]

/--
A text cut after so many bytes is read as the characters in front of the cut and, if the
cut is inside a character, one replacement character.
-/
theorem CutAt.decode_take {count : Nat} {text kept : String} {next : Char}
    (cut : CutAt count text kept next) :
    decode ((encode text).take count) =
      if count = kept.utf8ByteSize then kept else kept.push replacement := by
  obtain ⟨rest, split⟩ := cut.split
  have reached := cut.reached
  have inside := cut.inside
  have taken : (encode text).take count =
      kept.toList.flatMap String.utf8EncodeChar ++
        (String.utf8EncodeChar next).take (count - kept.utf8ByteSize) := by
    rw [encode_eq, split, List.flatMap_append, ← encode_eq, List.take_append, length_encode,
      List.take_of_length_le (by rw [length_encode]; exact reached), List.flatMap_cons,
      List.take_append_of_le_length (by rw [String.length_utf8EncodeChar]; omega)]
  rw [taken, decode_eq, letters_append (run_flatMap _)]
  split
  next front =>
    rw [front, Nat.sub_self, List.take_zero]
    simp [letters, lettersFrom, run, finish]
  next beyond =>
    rw [letters_take_utf8EncodeChar (by omega) (by omega), ← String.toList_inj]
    simp

end PlanGuard.Text.Utf8
