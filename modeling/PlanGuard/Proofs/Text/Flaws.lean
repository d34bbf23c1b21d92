import PlanGuard.Proofs.Text.Decode

/-!
# Bytes that are no text

Any bytes fall into segments: the bytes of a character, which are read as it, and flaws,
one to three bytes which are read as one replacement character.  As that has three bytes
itself, what is read is longer than what was there by what its flaws are short of three.
-/

namespace PlanGuard.Text.Utf8

theorem utf8Size_replacement : replacement.utf8Size = 3 := by
  decide

/-! ## Segments -/

inductive Segment where
  | letter (c : Char)
  | flaw (bytes : List UInt8)

namespace Segment

def bytes : Segment → List UInt8
  | .letter c => String.utf8EncodeChar c
  | .flaw bytes => bytes

def read : Segment → Char
  | .letter c => c
  | .flaw _ => replacement

def growth : Segment → Nat
  | .letter _ => 0
  | .flaw bytes => 3 - bytes.length

/-- A flaw is shorter than a character can be. -/
def Proper : Segment → Prop
  | .letter _ => True
  | .flaw bytes => 0 < bytes.length ∧ bytes.length ≤ 3

theorem proper_letter (c : Char) : (letter c).Proper :=
  trivial

theorem proper_stray (b : UInt8) : (flaw [b]).Proper :=
  ⟨Nat.one_pos, Nat.le_add_left 1 2⟩

theorem Proper.utf8Size_read {segment : Segment} (proper : segment.Proper) :
    segment.read.utf8Size = segment.bytes.length + segment.growth := by
  cases segment with
  | letter c => exact (String.length_utf8EncodeChar c).symm
  | flaw bytes =>
      have short := proper.2
      change 3 = bytes.length + (3 - bytes.length)
      omega

theorem Proper.utf8Size_read_le {segment : Segment} (proper : segment.Proper) :
    segment.read.utf8Size ≤ 3 * segment.bytes.length := by
  cases segment with
  | letter c =>
      change c.utf8Size ≤ 3 * (String.utf8EncodeChar c).length
      rw [String.length_utf8EncodeChar]
      omega
  | flaw bytes =>
      have long := proper.1
      change 3 ≤ 3 * bytes.length
      omega

end Segment

/-- Some bytes are these segments, and are read as these characters. -/
structure Reads (segments : List Segment) (all : List UInt8) (text : List Char) : Prop where
  bytes : segments.flatMap Segment.bytes = all
  read : segments.map Segment.read = text
  proper : ∀ segment ∈ segments, segment.Proper

namespace Reads

theorem nil : Reads [] [] [] :=
  ⟨rfl, rfl, List.forall_mem_nil _⟩

theorem cons {segments : List Segment} {all : List UInt8} {text : List Char}
    {segment : Segment} (proper : segment.Proper) (reads : Reads segments all text) :
    Reads (segment :: segments) (segment.bytes ++ all) (segment.read :: text) where
  bytes := by rw [List.flatMap_cons, reads.bytes]
  read := by rw [List.map_cons, reads.read]
  proper := List.forall_mem_cons.mpr ⟨proper, reads.proper⟩

/-- What is read is longer than what was there by the growth of its segments. -/
theorem utf8Len_eq {segments : List Segment} {all : List UInt8} {text : List Char}
    (reads : Reads segments all text) :
    String.utf8Len text = all.length + (segments.map Segment.growth).sum := by
  obtain ⟨rfl, rfl, proper⟩ := reads
  induction segments with
  | nil => rfl
  | cons segment rest ih =>
      obtain ⟨first, later⟩ := List.forall_mem_cons.mp proper
      rw [List.map_cons, String.utf8Len_cons, ih later, first.utf8Size_read, List.flatMap_cons,
        List.length_append, List.map_cons, List.sum_cons]
      omega

theorem utf8Len_le {segments : List Segment} {all : List UInt8} {text : List Char}
    (reads : Reads segments all text) : String.utf8Len text ≤ 3 * all.length := by
  obtain ⟨rfl, rfl, proper⟩ := reads
  induction segments with
  | nil => exact Nat.le_refl 0
  | cons segment rest ih =>
      obtain ⟨first, later⟩ := List.forall_mem_cons.mp proper
      have here := first.utf8Size_read_le
      have beyond := ih later
      rw [List.map_cons, String.utf8Len_cons, List.flatMap_cons, List.length_append]
      omega

end Reads

/-! ## Part of a character -/

/--
The reader is inside a character after these bytes: whatever completes it from there, the
bytes from its beginning are those of the character.
-/
structure Pending (seen : List UInt8) (owed : Nat) (low high : UInt8) (value : Nat) :
    Prop where
  nonempty : 0 < seen.length
  owing : 0 < owed
  room : seen.length + owed ≤ 4
  least : 0x80 ≤ low
  greatest : high ≤ 0xBF
  completed : ∀ rest number, Completes (.inside owed low high value) rest number →
    String.utf8EncodeChar (Char.ofNat number) = seen ++ rest

/-- Where no more comes, what was seen is a flaw. -/
theorem Pending.proper {seen : List UInt8} {owed value : Nat} {low high : UInt8}
    (pending : Pending seen owed low high value) : (Segment.flaw seen).Proper := by
  have owing := pending.owing
  have room := pending.room
  exact ⟨pending.nonempty, by omega⟩

theorem utf8EncodeChar_ofNat {n : Nat} (valid : n.isValidChar) :
    String.utf8EncodeChar (Char.ofNat n) =
      if n ≤ 127 then [UInt8.ofNat n]
      else if n ≤ 2047 then [UInt8.ofNat (n / 64 % 32 + 192), tailByte (n % 64)]
      else if n ≤ 65535 then
        [UInt8.ofNat (n / 4096 % 16 + 224), tailByte (n / 64 % 64), tailByte (n % 64)]
      else
        [UInt8.ofNat (n / 262144 % 8 + 240), tailByte (n / 4096 % 64),
          tailByte (n / 64 % 64), tailByte (n % 64)] := by
  have number : (Char.ofNat n).val.toNat = n := by
    unfold Char.ofNat
    rw [dif_pos valid]
    rfl
  unfold String.utf8EncodeChar
  rw [number]
  rfl

theorem pending_two {b : UInt8} {n : Nat} (first : b.toNat = n + 192) (least : 2 ≤ n)
    (greatest : n < 32) : Pending [b] 1 0x80 0xBF n := by
  refine ⟨Nat.one_pos, Nat.one_pos, by simp, by decide, by decide, ?_⟩
  intro rest number completes
  cases completes with
  | @last _ _ _ digit fits =>
      have small := fits.small
      generalize whole : n * 64 + digit = number
      have valid : number.isValidChar := .inl (by omega)
      have head : number / 64 % 32 + 192 = b.toNat := by omega
      have last : number % 64 = digit := by omega
      rw [utf8EncodeChar_ofNat valid, if_neg (by omega), if_pos (by omega), head, last,
        UInt8.ofNat_toNat]
      rfl

theorem pending_three {b low high : UInt8} {n : Nat} (first : b.toNat = n + 224)
    (small : n < 16) (least : 0x80 ≤ low) (greatest : high ≤ 0xBF)
    (long : n = 0 → 160 ≤ low.toNat) (plain : n = 13 → high.toNat ≤ 159) :
    Pending [b] 2 low high n := by
  refine ⟨Nat.one_pos, Nat.two_pos, by simp, least, greatest, ?_⟩
  intro rest number completes
  cases completes with
  | @more _ _ _ _ middle _ _ fits further =>
      obtain ⟨below, above, under⟩ := fits
      cases further with
      | @last _ _ _ digit others =>
          have other := others.small
          generalize whole : (n * 64 + middle) * 64 + digit = number
          have valid : number.isValidChar := by
            unfold Nat.isValidChar
            omega
          have head : number / 4096 % 16 + 224 = b.toNat := by omega
          have second : number / 64 % 64 = middle := by omega
          have third : number % 64 = digit := by omega
          rw [utf8EncodeChar_ofNat valid, if_neg (by omega), if_neg (by omega),
            if_pos (by omega), head, second, third, UInt8.ofNat_toNat]
          rfl

theorem pending_four {b low high : UInt8} {n : Nat} (first : b.toNat = n + 240)
    (small : n < 5) (least : 0x80 ≤ low) (greatest : high ≤ 0xBF)
    (long : n = 0 → 144 ≤ low.toNat) (bounded : n = 4 → high.toNat ≤ 143) :
    Pending [b] 3 low high n := by
  refine ⟨Nat.one_pos, Nat.succ_pos 2, by simp, least, greatest, ?_⟩
  intro rest number completes
  cases completes with
  | @more _ _ _ _ middle _ _ fits further =>
      obtain ⟨below, above, under⟩ := fits
      cases further with
      | @more _ _ _ _ next _ _ between further =>
          have another := between.small
          cases further with
          | @last _ _ _ digit others =>
              have other := others.small
              generalize whole : ((n * 64 + middle) * 64 + next) * 64 + digit = number
              have valid : number.isValidChar := by
                unfold Nat.isValidChar
                omega
              have head : number / 262144 % 8 + 240 = b.toNat := by omega
              have second : number / 4096 % 64 = middle := by omega
              have third : number / 64 % 64 = next := by omega
              have fourth : number % 64 = digit := by omega
              rw [utf8EncodeChar_ofNat valid, if_neg (by omega), if_neg (by omega),
                if_neg (by omega), head, second, third, fourth, UInt8.ofNat_toNat]
              rfl

/-- A byte that goes on with a character carries six bits of its number. -/
theorem exists_digit {low high b : UInt8} (least : 0x80 ≤ low) (greatest : high ≤ 0xBF)
    (within : low ≤ b ∧ b ≤ high) : ∃ digit, Fits low high digit ∧ b = tailByte digit := by
  have least : 128 ≤ low.toNat := UInt8.le_iff_toNat_le.mp least
  have greatest : high.toNat ≤ 191 := UInt8.le_iff_toNat_le.mp greatest
  rw [UInt8.le_iff_toNat_le, UInt8.le_iff_toNat_le] at within
  have whole : b.toNat - 128 + 128 = b.toNat := by omega
  refine ⟨b.toNat - 128, ⟨by omega, by omega, by omega⟩, ?_⟩
  rw [tailByte, whole, UInt8.ofNat_toNat]

theorem Pending.step {seen : List UInt8} {owed value : Nat} {low high : UInt8}
    (pending : Pending seen owed low high value) (b : UInt8) :
    (∃ c, Utf8.step (.inside owed low high value) b = (.between, [c]) ∧
      String.utf8EncodeChar c = seen ++ [b]) ∨
    (∃ owed' low' high' value',
      Utf8.step (.inside owed low high value) b = (.inside owed' low' high' value', []) ∧
        Pending (seen ++ [b]) owed' low' high' value') ∨
    Utf8.step (.inside owed low high value) b = ((fresh b).1, replacement :: (fresh b).2) := by
  by_cases within : low ≤ b ∧ b ≤ high
  · obtain ⟨digit, fits, rfl⟩ := exists_digit pending.least pending.greatest within
    have room := pending.room
    match owed, pending with
    | 1, pending =>
        exact .inl ⟨_, fits.step_last, pending.completed _ _ (.last fits)⟩
    | owed + 2, pending =>
        refine .inr (.inl ⟨_, _, _, _, fits.step_more owed, ?_⟩)
        refine ⟨by simp, Nat.succ_pos owed, ?_, by decide, by decide, ?_⟩
        · rw [List.length_append, List.length_singleton]
          omega
        · intro rest number completes
          rw [pending.completed _ _ (.more fits completes), List.append_assoc]
          rfl
  · right
    right
    simp [Utf8.step, within]

/-- Between characters a byte is one, or is replaced, or begins one. -/
theorem fresh_cases (b : UInt8) :
    (∃ c, fresh b = (.between, [c]) ∧ String.utf8EncodeChar c = [b]) ∨
    fresh b = (.between, [replacement]) ∨
    ∃ owed low high value, fresh b = (.inside owed low high value, []) ∧
      Pending [b] owed low high value := by
  by_cases one : b < 0x80
  · have small : b.toNat < 128 := UInt8.lt_iff_toNat_lt.mp one
    have reads := fresh_of_one small
    rw [UInt8.ofNat_toNat] at reads
    refine .inl ⟨_, reads, ?_⟩
    rw [utf8EncodeChar_ofNat (.inl (by omega)), if_pos (Nat.le_of_lt_succ small),
      UInt8.ofNat_toNat]
  · right
    unfold fresh begin
    rw [if_neg one]
    simp only [UInt8.lt_iff_toNat_lt, beq_iff_eq, ← UInt8.toNat_inj, UInt8.reduceToNat]
      at one ⊢
    -- The bounds on the first byte, in the order in which they are asked for.
    split
    next => exact .inl rfl
    split
    next => exact .inr ⟨_, _, _, _, rfl, pending_two (by omega) (by omega) (by omega)⟩
    split
    next least =>
      refine .inr ⟨_, _, _, _, rfl, pending_three least ?_ ?_ ?_ ?_ ?_⟩ <;> decide
    split
    next surrogate =>
      refine .inr ⟨_, _, _, _, rfl, pending_three surrogate ?_ ?_ ?_ ?_ ?_⟩ <;> decide
    split
    next =>
      refine .inr ⟨_, _, _, _, rfl,
        pending_three (by omega) (by omega) (by decide) (by decide) ?_ ?_⟩
      · omega
      · omega
    split
    next least =>
      refine .inr ⟨_, _, _, _, rfl, pending_four least ?_ ?_ ?_ ?_ ?_⟩ <;> decide
    split
    next =>
      refine .inr ⟨_, _, _, _, rfl,
        pending_four (by omega) (by omega) (by decide) (by decide) ?_ ?_⟩
      · omega
      · omega
    split
    next greatest =>
      refine .inr ⟨_, _, _, _, rfl, pending_four greatest ?_ ?_ ?_ ?_ ?_⟩ <;> decide
    next => exact .inl rfl

/-! ## The segments of any bytes -/

/-- Bytes read between characters, or inside one of which some were seen, fall into segments. -/
theorem exists_reads (bytes : List UInt8) :
    (∃ segments, Reads segments bytes (letters bytes)) ∧
    ∀ seen owed low high value, Pending seen owed low high value →
      ∃ segments, Reads segments (seen ++ bytes)
        (lettersFrom (.inside owed low high value) bytes) := by
  induction bytes with
  | nil =>
      refine ⟨⟨[], .nil⟩, ?_⟩
      intro seen owed low high value pending
      exact ⟨_, .cons pending.proper .nil⟩
  | cons b rest ih =>
      obtain ⟨⟨segments, reads⟩, further⟩ := ih
      have between : ∃ segments, Reads segments (b :: rest)
          ((fresh b).2 ++ lettersFrom (fresh b).1 rest) := by
        rcases fresh_cases b with
          ⟨c, one, encoded⟩ | stray | ⟨owed, low, high, value, begins, pending⟩
        · have more := reads.cons (Segment.proper_letter c)
          rw [Segment.bytes, encoded] at more
          rw [one]
          exact ⟨_, more⟩
        · rw [stray]
          exact ⟨_, reads.cons (Segment.proper_stray b)⟩
        · rw [begins]
          exact further _ _ _ _ _ pending
      constructor
      · rw [letters, lettersFrom_cons]
        exact between
      · intro seen owed low high value pending
        rw [lettersFrom_cons]
        rcases pending.step b with
          ⟨c, completed, encoded⟩ | ⟨owed', low', high', value', goes, still⟩ | astray
        · have more := reads.cons (Segment.proper_letter c)
          rw [Segment.bytes, encoded, List.append_assoc] at more
          rw [completed]
          exact ⟨_, more⟩
        · obtain ⟨segments, reads⟩ := further _ _ _ _ _ still
          rw [List.append_assoc] at reads
          rw [goes]
          exact ⟨segments, reads⟩
        · obtain ⟨segments, reads⟩ := between
          rw [astray]
          exact ⟨_, reads.cons pending.proper⟩

theorem exists_reads_decode (bytes : List UInt8) :
    ∃ segments, Reads segments bytes (decode bytes).toList := by
  rw [decode_eq, String.toList_ofList]
  exact (exists_reads bytes).1

end PlanGuard.Text.Utf8
