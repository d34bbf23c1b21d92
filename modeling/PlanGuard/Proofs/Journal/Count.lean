import PlanGuard.Journal
import Mathlib.Data.List.Basic

/-!
# The count of a journal

A journal carries a number beside its entries.  `Counted` says that the number
is that of the entries with a failure, and every operation keeps it so; the
subtraction in `markFixed` never meets a zero.  The failing positions and the
first failure are described by the entries alone.
-/

namespace PlanGuard

namespace Entry

theorem failed_iff {entry : Entry} :
    entry.failed = true ↔ ∃ failure, entry.failure = some failure :=
  Option.isSome_iff_exists

@[simp] theorem failed_eq_false_iff {entry : Entry} :
    entry.failed = false ↔ entry.failure = none := by
  simp [failed]

theorem succeeded_eq (entry : Entry) : entry.succeeded = !entry.failed := by
  unfold succeeded failed
  cases entry.failure <;> rfl

end Entry

namespace Journal

/-! ## The entries after an operation -/

@[simp] theorem entries_push (journal : Journal) (entry : Entry) :
    (journal.push entry).entries = journal.entries ++ [entry] :=
  rfl

@[simp] theorem entries_appendFixes (journal : Journal) (position : Nat)
    (fixes : Journal) :
    (journal.appendFixes position fixes).entries = journal.entries :=
  rfl

/-- Changing an entry at its position is putting the changed entry there. -/
theorem modify_eq_set_of_found {entries : List Entry} {position : Nat}
    {entry : Entry} (change : Entry → Entry)
    (found : entries[position]? = some entry) :
    entries.modify position change = entries.set position (change entry) := by
  rw [List.modify_eq_set_getElem?, found]
  rfl

theorem entries_markFixed (journal : Journal) (position : Nat) :
    (journal.markFixed position).entries =
      journal.entries.modify position fun entry => { entry with failure := none } := by
  unfold markFixed
  cases found : journal.entries[position]? with
  | none =>
      exact (List.modify_eq_self (List.getElem?_eq_none_iff.mp found)).symm
  | some entry =>
      rw [modify_eq_set_of_found _ found]
      dsimp only
      cases failed : entry.failed with
      | true => rfl
      | false =>
          have clear : entry.failure = none := Entry.failed_eq_false_iff.mp failed
          have unchanged : { entry with failure := none } = entry := by rw [← clear]
          obtain ⟨inside, here⟩ := List.getElem?_eq_some_iff.mp found
          rw [unchanged, ← here, List.set_getElem_self]
          rfl

theorem entries_recordFixFailure (journal : Journal) (position : Nat)
    (output : String) (failure : Failure) :
    (journal.recordFixFailure position output failure).entries =
      journal.entries.modify position fun entry =>
        { entry with output, failure := some failure } := by
  unfold recordFixFailure
  cases found : journal.entries[position]? with
  | none =>
      exact (List.modify_eq_self (List.getElem?_eq_none_iff.mp found)).symm
  | some entry => rw [modify_eq_set_of_found _ found]

theorem markFixed_of_length_le {journal : Journal} {position : Nat}
    (outside : journal.entries.length ≤ position) :
    journal.markFixed position = journal := by
  unfold markFixed
  rw [List.getElem?_eq_none outside]

theorem recordFixFailure_of_length_le {journal : Journal} {position : Nat}
    (output : String) (failure : Failure)
    (outside : journal.entries.length ≤ position) :
    journal.recordFixFailure position output failure = journal := by
  unfold recordFixFailure
  rw [List.getElem?_eq_none outside]

/-! ## The count and the entries agree -/

/-- The number beside the entries is that of the entries with a failure. -/
def Counted (journal : Journal) : Prop :=
  journal.failed = journal.entries.countP Entry.failed

/-- Changing one entry moves the count by what happens to that entry. -/
theorem countP_modify {entries : List Entry} {position : Nat} {entry : Entry}
    (change : Entry → Entry) (found : entries[position]? = some entry) :
    (entries.modify position change).countP Entry.failed + entry.failed.toNat =
      entries.countP Entry.failed + (change entry).failed.toNat := by
  induction entries generalizing position with
  | nil => cases found
  | cons first rest ih =>
      cases position with
      | zero =>
          have same : first = entry := Option.some.inj found
          subst same
          rw [List.modify_zero_cons, List.countP_cons, List.countP_cons]
          cases first.failed <;> cases (change first).failed <;> simp
      | succ position =>
          have later := ih found
          rw [List.modify_succ_cons, List.countP_cons, List.countP_cons]
          omega

theorem countP_pos_of_failed {entries : List Entry} {position : Nat} {entry : Entry}
    (found : entries[position]? = some entry) (failed : entry.failed = true) :
    0 < entries.countP Entry.failed :=
  List.countP_pos_iff.mpr ⟨entry, List.mem_of_getElem? found, failed⟩

theorem counted_empty : Counted empty :=
  rfl

theorem Counted.push {journal : Journal} (counted : journal.Counted)
    (entry : Entry) : (journal.push entry).Counted := by
  unfold Counted at *
  rw [entries_push, List.countP_append, List.countP_singleton, ← counted]
  unfold Journal.push
  cases entry.failed <;> rfl

theorem Counted.markFixed {journal : Journal} (counted : journal.Counted)
    (position : Nat) : (journal.markFixed position).Counted := by
  unfold Counted at *
  rw [entries_markFixed]
  unfold Journal.markFixed
  cases found : journal.entries[position]? with
  | none =>
      rw [List.modify_eq_self (List.getElem?_eq_none_iff.mp found)]
      exact counted
  | some entry =>
      have moved := countP_modify (fun entry => { entry with failure := none }) found
      have cleared : Entry.failed { entry with failure := none } = false := rfl
      rw [cleared] at moved
      cases failed : entry.failed with
      | true =>
          have some := countP_pos_of_failed found failed
          rw [failed, Bool.toNat_true, Bool.toNat_false] at moved
          simp only [failed, if_true]
          omega
      | false =>
          rw [failed, Bool.toNat_false] at moved
          simp only [failed, Bool.false_eq_true, if_false]
          omega

theorem Counted.recordFixFailure {journal : Journal} (counted : journal.Counted)
    (position : Nat) (output : String) (failure : Failure) :
    (journal.recordFixFailure position output failure).Counted := by
  unfold Counted at *
  rw [entries_recordFixFailure]
  unfold Journal.recordFixFailure
  cases found : journal.entries[position]? with
  | none =>
      rw [List.modify_eq_self (List.getElem?_eq_none_iff.mp found)]
      exact counted
  | some entry =>
      have moved := countP_modify
        (fun entry => { entry with output, failure := some failure }) found
      have failing :
          Entry.failed { entry with output, failure := some failure } = true := rfl
      rw [failing, Bool.toNat_true] at moved
      simp only [Entry.succeeded_eq]
      cases failed : entry.failed <;> simp [failed] at moved ⊢ <;> omega

theorem Counted.appendFixes {journal : Journal} (counted : journal.Counted)
    (position : Nat) (fixes : Journal) :
    (journal.appendFixes position fixes).Counted :=
  counted

/-- The subtraction in `markFixed` is exact: the count was not zero. -/
theorem Counted.failed_markFixed {journal : Journal} (counted : journal.Counted)
    {position : Nat} {entry : Entry}
    (found : journal.entries[position]? = some entry) (failed : entry.failed = true) :
    (journal.markFixed position).failed + 1 = journal.failed := by
  have some : 0 < journal.failed := counted ▸ countP_pos_of_failed found failed
  unfold Journal.markFixed
  simp only [found, failed, if_true]
  omega

@[simp] theorem entries_ofEntries (entries : List Entry) :
    (ofEntries entries).entries = entries := by
  have grown (journal : Journal) :
      (entries.foldl Journal.push journal).entries = journal.entries ++ entries := by
    induction entries generalizing journal with
    | nil => exact (List.append_nil _).symm
    | cons entry rest ih =>
        rw [List.foldl_cons, ih, entries_push, List.append_assoc]
        rfl
  exact grown empty

/-- What holds of the empty journal and is kept with each entry that is added. -/
@[elab_as_elim]
theorem ofEntries_induction {motive : Journal → Prop} (start : motive empty)
    (push : ∀ journal entry, motive journal → motive (journal.push entry))
    (entries : List Entry) : motive (ofEntries entries) := by
  have grown (journal : Journal) (good : motive journal) :
      motive (entries.foldl Journal.push journal) := by
    induction entries generalizing journal with
    | nil => exact good
    | cons entry rest ih => exact ih _ (push journal entry good)
  exact grown empty start

@[simp] theorem audit_ofEntries (entries : List Entry) : (ofEntries entries).audit = [] :=
  ofEntries_induction rfl (fun _ _ bare => bare) entries

theorem counted_ofEntries (entries : List Entry) : (ofEntries entries).Counted :=
  ofEntries_induction counted_empty (fun _ entry counted => counted.push entry) entries

theorem failed_ofEntries (entries : List Entry) :
    (ofEntries entries).failed = entries.countP Entry.failed := by
  have counted := counted_ofEntries entries
  unfold Counted at counted
  rwa [entries_ofEntries] at counted

/-! ## Failing positions -/

theorem mem_failingFrom {start position : Nat} {entries : List Entry} :
    position ∈ failingFrom start entries ↔
      start ≤ position ∧
        ∃ entry, entries[position - start]? = some entry ∧ entry.failed = true := by
  induction entries generalizing start with
  | nil => simp [failingFrom]
  | cons first rest ih =>
      have shift (later : start + 1 ≤ position) :
          (first :: rest)[position - start]? = rest[position - (start + 1)]? := by
        rw [show position - start = position - (start + 1) + 1 by omega]
        rfl
      have tail : position ∈ failingFrom (start + 1) rest ↔
          start + 1 ≤ position ∧ ∃ entry,
            (first :: rest)[position - start]? = some entry ∧ entry.failed = true := by
        rw [ih]
        constructor
        · rintro ⟨later, found⟩
          exact ⟨later, shift later ▸ found⟩
        · rintro ⟨later, found⟩
          exact ⟨later, shift later ▸ found⟩
      have head (here : position = start) :
          (first :: rest)[position - start]? = some first := by
        rw [here, Nat.sub_self]
        rfl
      unfold failingFrom
      cases failed : first.failed with
      | true =>
          rw [if_pos rfl, List.mem_cons, tail]
          constructor
          · rintro (here | ⟨later, found⟩)
            · exact ⟨Nat.le_of_eq here.symm, first, head here, failed⟩
            · exact ⟨by omega, found⟩
          · rintro ⟨from_start, found⟩
            rcases Nat.eq_or_lt_of_le from_start with here | later
            · exact .inl here.symm
            · exact .inr ⟨later, found⟩
      | false =>
          rw [if_neg Bool.false_ne_true, tail]
          constructor
          · rintro ⟨later, found⟩
            exact ⟨by omega, found⟩
          · rintro ⟨from_start, entry, found, fails⟩
            rcases Nat.eq_or_lt_of_le from_start with here | later
            · rw [head here.symm] at found
              rw [← Option.some.inj found, failed] at fails
              cases fails
            · exact ⟨later, entry, found, fails⟩

theorem mem_failing {journal : Journal} {position : Nat} :
    position ∈ journal.failing ↔
      ∃ entry, journal.entries[position]? = some entry ∧ entry.failed = true := by
  unfold failing
  rw [mem_failingFrom]
  simp

theorem pairwise_failingFrom (start : Nat) (entries : List Entry) :
    (failingFrom start entries).Pairwise (· < ·) := by
  induction entries generalizing start with
  | nil => exact .nil
  | cons first rest ih =>
      unfold failingFrom
      split
      · refine .cons ?_ (ih (start + 1))
        intro position member
        exact (mem_failingFrom.mp member).1
      · exact ih (start + 1)

theorem pairwise_failing (journal : Journal) : journal.failing.Pairwise (· < ·) :=
  pairwise_failingFrom 0 journal.entries

theorem nodup_failing (journal : Journal) : journal.failing.Nodup :=
  (pairwise_failing journal).imp Nat.ne_of_lt

theorem length_failingFrom (start : Nat) (entries : List Entry) :
    (failingFrom start entries).length = entries.countP Entry.failed := by
  induction entries generalizing start with
  | nil => rfl
  | cons first rest ih =>
      unfold failingFrom
      rw [List.countP_cons]
      split
      · rw [List.length_cons, ih]
      · exact ih (start + 1)

theorem length_failing_le (journal : Journal) :
    journal.failing.length ≤ journal.entries.length := by
  unfold failing
  rw [length_failingFrom]
  exact List.countP_le_length

theorem Counted.length_failing {journal : Journal} (counted : journal.Counted) :
    journal.failing.length = journal.failed :=
  (length_failingFrom 0 journal.entries).trans counted.symm

theorem find?_failed_eq (start : Nat) (entries : List Entry) :
    entries.find? Entry.failed =
      (failingFrom start entries).head?.bind fun position =>
        entries[position - start]? := by
  induction entries generalizing start with
  | nil => rfl
  | cons first rest ih =>
      unfold failingFrom
      cases failed : first.failed with
      | true =>
          rw [List.find?_cons_of_pos failed, if_pos rfl, List.head?_cons,
            Option.bind_some, Nat.sub_self]
          rfl
      | false =>
          rw [List.find?_cons_of_neg (by simp [failed]), if_neg Bool.false_ne_true,
            ih (start + 1)]
          cases head : (failingFrom (start + 1) rest).head? with
          | none => rfl
          | some position =>
              have later : start + 1 ≤ position :=
                (mem_failingFrom.mp (List.mem_of_head? head)).1
              rw [Option.bind_some, Option.bind_some,
                show position - start = position - (start + 1) + 1 by omega]
              rfl

theorem firstFailure?_eq (journal : Journal) :
    journal.firstFailure? =
      journal.failing.head?.bind fun position => journal.entries[position]? :=
  find?_failed_eq 0 journal.entries

/-! ## Success -/

theorem Counted.isSuccess_iff {journal : Journal} (counted : journal.Counted) :
    journal.isSuccess = true ↔ ∀ entry ∈ journal.entries, entry.failure = none := by
  unfold isSuccess
  rw [beq_iff_eq, counted, List.countP_eq_zero]
  simp only [Bool.not_eq_true, Entry.failed_eq_false_iff]

/-- A counted journal is a success exactly when it has no first failure. -/
theorem Counted.isSuccess_iff_firstFailure? {journal : Journal}
    (counted : journal.Counted) :
    journal.isSuccess = true ↔ journal.firstFailure? = none := by
  rw [counted.isSuccess_iff]
  unfold firstFailure?
  rw [List.find?_eq_none]
  simp only [Bool.not_eq_true, Entry.failed_eq_false_iff]

end Journal

end PlanGuard
