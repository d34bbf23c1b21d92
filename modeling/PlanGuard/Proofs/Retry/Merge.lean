import PlanGuard.Retry
import PlanGuard.Proofs.Journal.Count

/-!
# What a fix makes of a journal

A fix that was run changes the entry that it was meant for and no other.  What
becomes of that entry is `Entry.afterFix`: it loses its failure, or it takes over
the output and the failure of the fix's first failure.  `replay` writes a series
of tries into a journal, and what it makes of an entry depends only on the fixes
for that entry's position.
-/

namespace PlanGuard

/-- What a fix makes of the entry that it was meant for. -/
def Entry.afterFix (fix : Journal) (entry : Entry) : Entry :=
  match fix.firstFailure? with
  | none => { entry with failure := none }
  | some first => { entry with output := first.output, failure := first.failure }

namespace Entry

theorem afterFix_of_isSuccess {fix : Journal} (counted : fix.Counted)
    (success : fix.isSuccess = true) (entry : Entry) :
    entry.afterFix fix = { entry with failure := none } := by
  unfold afterFix
  rw [counted.isSuccess_iff_firstFailure?.mp success]

theorem failed_afterFix {fix : Journal} (counted : fix.Counted) (entry : Entry) :
    (entry.afterFix fix).failed = !fix.isSuccess := by
  unfold afterFix
  cases found : fix.firstFailure? with
  | none =>
      rw [counted.isSuccess_iff_firstFailure?.mpr found]
      rfl
  | some first =>
      have failed : first.failed = true := List.find?_some found
      have unsuccessful : fix.isSuccess = false := by
        cases success : fix.isSuccess with
        | false => rfl
        | true =>
            rw [counted.isSuccess_iff_firstFailure?.mp success] at found
            cases found
      rw [unsuccessful]
      exact failed

theorem afterFix_frame (fix : Journal) (entry : Entry) :
    entry.afterFix fix =
      { entry with
        output := (entry.afterFix fix).output
        failure := (entry.afterFix fix).failure } := by
  unfold afterFix
  cases fix.firstFailure? <;> rfl

end Entry

namespace Journal

/-! ## One fix -/

theorem entries_mergeFix (journal : Journal) (position : Nat) {fix : Journal}
    (counted : fix.Counted) :
    (journal.mergeFix position fix).entries =
      journal.entries.modify position (Entry.afterFix fix) := by
  unfold mergeFix
  rw [entries_appendFixes]
  cases success : fix.isSuccess with
  | true =>
      rw [if_pos rfl, entries_markFixed]
      congr 1
      funext entry
      exact (Entry.afterFix_of_isSuccess counted success entry).symm
  | false =>
      rw [if_neg Bool.false_ne_true]
      cases found : fix.firstFailure? with
      | none =>
          rw [counted.isSuccess_iff_firstFailure?.mpr found] at success
          cases success
      | some first =>
          have failed : first.failed = true := List.find?_some found
          obtain ⟨failure, carried⟩ := Entry.failed_iff.mp failed
          simp only [carried]
          rw [entries_recordFixFailure]
          congr 1
          funext entry
          unfold Entry.afterFix
          rw [found, ← carried]

/-- A fix is appended after at most one operation on the entries. -/
theorem mergeFix_cases (journal : Journal) (position : Nat) (fix : Journal) :
    ∃ merged : Journal, journal.mergeFix position fix = merged.appendFixes position fix ∧
      (merged = journal ∨ merged = journal.markFixed position ∨
        ∃ output failure, merged = journal.recordFixFailure position output failure) := by
  refine ⟨_, rfl, ?_⟩
  split
  · exact .inr (.inl rfl)
  · split
    · exact .inl rfl
    · split
      · exact .inl rfl
      · exact .inr (.inr ⟨_, _, rfl⟩)

theorem Counted.mergeFix {journal : Journal} (counted : journal.Counted)
    (position : Nat) (fix : Journal) : (journal.mergeFix position fix).Counted := by
  obtain ⟨merged, same, rfl | rfl | ⟨output, failure, rfl⟩⟩ :=
    journal.mergeFix_cases position fix
  · exact same ▸ counted.appendFixes position fix
  · exact same ▸ (counted.markFixed position).appendFixes position fix
  · exact same ▸ (counted.recordFixFailure position output failure).appendFixes position fix

/-- A fix for a failing entry takes one from the count if it is a success. -/
theorem Counted.failed_mergeFix {journal fix : Journal} (counted : journal.Counted)
    (fixCounted : fix.Counted) {position : Nat} {entry : Entry}
    (found : journal.entries[position]? = some entry) (failed : entry.failed = true) :
    (journal.mergeFix position fix).failed + fix.isSuccess.toNat = journal.failed := by
  have merged := counted.mergeFix position fix
  have moved := countP_modify (Entry.afterFix fix) found
  unfold Counted at counted merged
  rw [entries_mergeFix _ _ fixCounted] at merged
  rw [Entry.failed_afterFix fixCounted, failed, Bool.toNat_true, ← merged, ← counted]
    at moved
  cases success : fix.isSuccess <;> simp [success] at moved ⊢ <;> omega

/-! ## A series of tries -/

def replay (journal : Journal) (tries : List Try) : Journal :=
  tries.foldl absorb journal

@[simp] theorem replay_nil (journal : Journal) : journal.replay [] = journal :=
  rfl

theorem replay_append (journal : Journal) (earlier later : List Try) :
    journal.replay (earlier ++ later) = (journal.replay earlier).replay later :=
  List.foldl_append

theorem replay_snoc (journal : Journal) (tries : List Try) (tried : Try) :
    journal.replay (tries ++ [tried]) = (journal.replay tries).absorb tried :=
  replay_append journal tries [tried]

end Journal

namespace Try

def fixAt? (position : Nat) (tried : Try) : Option Journal :=
  if tried.position = position then tried.fate.fix? else none

theorem fixAt?_eq_some_iff {position : Nat} {tried : Try} {fix : Journal} :
    tried.fixAt? position = some fix ↔
      tried.position = position ∧ tried.fate.fix? = some fix := by
  unfold fixAt?
  split
  next here => simp [here]
  next elsewhere => simp [elsewhere]

/-- The journal of a fix that was run is a counted one. -/
def Counted (tried : Try) : Prop :=
  ∀ fix, tried.fate.fix? = some fix → fix.Counted

end Try

def fixesAt (position : Nat) (tries : List Try) : List Journal :=
  tries.filterMap (Try.fixAt? position)

/-- The last fix for a position is that of a try after which there is none for it. -/
theorem exists_last_of_fixesAt {position : Nat} {tries : List Try}
    {fixes : List Journal} {fix : Journal}
    (last : fixesAt position tries = fixes ++ [fix]) :
    ∃ earlier tried later,
      tries = earlier ++ tried :: later ∧ tried.fixAt? position = some fix ∧
        fixesAt position later = [] := by
  unfold fixesAt at *
  obtain ⟨front, back, rfl, -, ends⟩ := List.filterMap_eq_append_iff.mp last
  obtain ⟨between, tried, later, rfl, -, aimed, silent⟩ :=
    List.filterMap_eq_cons_iff.mp ends
  exact ⟨front ++ between, tried, later, (List.append_assoc _ _ _).symm, aimed, silent⟩

namespace Journal

theorem getElem?_absorb (journal : Journal) {tried : Try} (counted : tried.Counted)
    (position : Nat) :
    (journal.absorb tried).entries[position]? =
      match tried.fixAt? position with
      | some fix => journal.entries[position]?.map (Entry.afterFix fix)
      | none => journal.entries[position]? := by
  unfold absorb Try.fixAt?
  cases ran : tried.fate.fix? with
  | none => simp
  | some fix =>
      dsimp only
      rw [entries_mergeFix _ _ (counted fix ran), List.getElem?_modify]
      by_cases here : tried.position = position
      · simp [here]
      · simp [here]

theorem length_absorb (journal : Journal) {tried : Try} (counted : tried.Counted) :
    (journal.absorb tried).entries.length = journal.entries.length := by
  unfold absorb
  cases ran : tried.fate.fix? with
  | none => rfl
  | some fix =>
      dsimp only
      rw [entries_mergeFix _ _ (counted fix ran), List.length_modify]

/-- Tries make of an entry what the fixes for its position make of it in turn. -/
theorem getElem?_replay (journal : Journal) {tries : List Try}
    (counted : ∀ tried ∈ tries, tried.Counted) (position : Nat) :
    (journal.replay tries).entries[position]? =
      journal.entries[position]?.map fun entry =>
        (fixesAt position tries).foldl (fun entry fix => entry.afterFix fix) entry := by
  induction tries generalizing journal with
  | nil => simp [fixesAt]
  | cons tried rest ih =>
      have first := counted tried List.mem_cons_self
      have later := fun other member => counted other (List.mem_cons_of_mem tried member)
      unfold replay at ih ⊢
      rw [List.foldl_cons, ih _ later, getElem?_absorb _ first]
      unfold fixesAt
      cases aimed : tried.fixAt? position with
      | none => rw [List.filterMap_cons_none aimed]
      | some fix =>
          rw [List.filterMap_cons_some aimed, Option.map_map]
          rfl

theorem length_replay (journal : Journal) {tries : List Try}
    (counted : ∀ tried ∈ tries, tried.Counted) :
    (journal.replay tries).entries.length = journal.entries.length := by
  induction tries generalizing journal with
  | nil => rfl
  | cons tried rest ih =>
      have first := counted tried List.mem_cons_self
      have later := fun other member => counted other (List.mem_cons_of_mem tried member)
      exact (ih _ later).trans (length_absorb journal first)

theorem Counted.absorb {journal : Journal} (counted : journal.Counted) (tried : Try) :
    (journal.absorb tried).Counted := by
  unfold Journal.absorb
  split
  · exact counted.mergeFix _ _
  · exact counted

theorem Counted.replay {journal : Journal} (counted : journal.Counted)
    (tries : List Try) : (journal.replay tries).Counted := by
  induction tries generalizing journal with
  | nil => exact counted
  | cons tried rest ih => exact ih (counted.absorb tried)

end Journal

end PlanGuard
