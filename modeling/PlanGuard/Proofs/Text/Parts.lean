import PlanGuard.Proofs.Text.Decode

/-!
# Parts of a character

A cut inside the bytes of a character leaves a part in front of it and a part behind it.
The part in front is read as one replacement character.  The one behind has only bytes
that begin no character, and each of them is read as one.
-/

namespace PlanGuard.Text.Utf8

/-- A byte that goes on with a character and begins none. -/
def Continues (b : UInt8) : Prop :=
  0x80 ≤ b ∧ b < 0xC0

theorem fresh_of_continues {b : UInt8} (continues : Continues b) :
    fresh b = (.between, [replacement]) := by
  have beyond : ¬b < 0x80 := UInt8.not_lt.mpr continues.1
  have below : b < 0xC2 := UInt8.lt_trans continues.2 (by decide)
  unfold fresh begin
  rw [if_neg beyond, if_pos below]
  rfl

theorem run_of_continues {bytes : List UInt8} (continue' : ∀ b ∈ bytes, Continues b) :
    run .between bytes = (.between, List.replicate bytes.length replacement) := by
  induction bytes with
  | nil => rfl
  | cons b rest ih =>
      obtain ⟨first, later⟩ := List.forall_mem_cons.mp continue'
      rw [run, step, fresh_of_continues first]
      dsimp only
      rw [ih later]
      rfl

theorem Completes.continues {cursor : Cursor} {bytes : List UInt8} {number : Nat}
    (completes : Completes cursor bytes number) : ∀ b ∈ bytes, Continues b := by
  have tail {low high : UInt8} {digit : Nat} (fits : Fits low high digit) :
      Continues (tailByte digit) := by
    have small := fits.small
    rw [Continues, UInt8.le_iff_toNat_le, UInt8.lt_iff_toNat_lt, fits.toNat]
    exact ⟨Nat.le_add_left 128 digit, Nat.add_lt_add_right small 128⟩
  induction completes with
  | last fits => exact List.forall_mem_singleton.mpr (tail fits)
  | more fits further ih => exact List.forall_mem_cons.mpr ⟨tail fits, ih⟩

theorem Completes.ne_nil {cursor : Cursor} {bytes : List UInt8} {number : Nat}
    (completes : Completes cursor bytes number) : bytes ≠ [] := by
  cases completes with
  | last => exact List.cons_ne_nil _ _
  | more => exact List.cons_ne_nil _ _

/-- Behind its first byte a character has only bytes that go on. -/
theorem continues_of_mem_drop {c : Char} {count : Nat} (some' : 0 < count) :
    ∀ b ∈ (String.utf8EncodeChar c).drop count, Continues b := by
  obtain ⟨count, rfl⟩ := Nat.exists_eq_add_of_lt some'
  rw [Nat.zero_add]
  rcases begins_or_completes c with
    ⟨byte, encoded, -⟩ | ⟨first, rest, cursor, encoded, -, completes⟩
  · rw [encoded, List.drop_succ_cons, List.drop_nil]
    exact List.forall_mem_nil _
  · rw [encoded, List.drop_succ_cons]
    exact fun b member => completes.continues b (List.mem_of_mem_drop member)

/-- A character of several bytes has none that could stand for itself. -/
theorem high_of_mem_utf8EncodeChar {c : Char} (long : 1 < c.utf8Size) :
    ∀ b ∈ String.utf8EncodeChar c, 0x80 ≤ b := by
  rw [← String.length_utf8EncodeChar] at long
  rcases begins_or_completes c with
    ⟨byte, encoded, -⟩ | ⟨first, rest, cursor, encoded, begins, completes⟩
  · rw [encoded] at long
    exact absurd long (Nat.lt_irrefl 1)
  · rw [encoded]
    refine List.forall_mem_cons.mpr ⟨?_, fun b member => (completes.continues b member).1⟩
    -- A byte below would be a character at once.
    by_contra low
    rw [UInt8.not_le] at low
    unfold fresh begin at begins
    rw [if_pos low] at begins
    cases begins

end PlanGuard.Text.Utf8
