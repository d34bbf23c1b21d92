import PlanGuard.Proofs.Retry.Chronicle

/-!
# Journals that can be reached

The operations of a journal lead from the empty one to every journal there is.
A plan that is run pushes its entries; a retry does nothing to a journal but what
the operations do, with fixes that were reached in the same way.  So what holds
of every journal that can be reached holds after every plan and retry, and in the
midst of a retry as well.
-/

namespace PlanGuard

namespace Journal

/-- What the operations make of the empty journal, in any order and at any position. -/
inductive Reachable : Journal → Prop where
  | empty : Reachable .empty
  | push {journal : Journal} (reachable : Reachable journal) (entry : Entry) :
      Reachable (journal.push entry)
  | markFixed {journal : Journal} (reachable : Reachable journal) (position : Nat) :
      Reachable (journal.markFixed position)
  | recordFixFailure {journal : Journal} (reachable : Reachable journal)
      (position : Nat) (output : String) (failure : Failure) :
      Reachable (journal.recordFixFailure position output failure)
  | appendFixes {journal fixes : Journal} (reachable : Reachable journal)
      (position : Nat) (reached : Reachable fixes) :
      Reachable (journal.appendFixes position fixes)

namespace Reachable

theorem counted {journal : Journal} (reachable : journal.Reachable) :
    journal.Counted := by
  induction reachable with
  | empty => exact counted_empty
  | push reachable entry ih => exact ih.push entry
  | markFixed reachable position ih => exact ih.markFixed position
  | recordFixFailure reachable position output failure ih =>
      exact ih.recordFixFailure position output failure
  | appendFixes reachable position reached ih _ => exact ih.appendFixes position _

theorem ofEntries (entries : List Entry) : (Journal.ofEntries entries).Reachable :=
  ofEntries_induction .empty (fun _ entry reachable => reachable.push entry) entries

theorem mergeFix {journal fix : Journal} (reachable : journal.Reachable)
    (position : Nat) (reached : fix.Reachable) :
    (journal.mergeFix position fix).Reachable := by
  obtain ⟨merged, same, rfl | rfl | ⟨output, failure, rfl⟩⟩ :=
    journal.mergeFix_cases position fix
  · exact same ▸ reachable.appendFixes position reached
  · exact same ▸ (reachable.markFixed position).appendFixes position reached
  · exact same ▸ (reachable.recordFixFailure position output failure).appendFixes position
      reached

end Reachable

end Journal

namespace Retry

variable {σ : Type}

theorem Outcome.reachable {retry : Retry σ} {advice : Advice} {fate : Fate}
    (outcome : retry.Outcome advice fate) :
    ∀ fix, fate.fix? = some fix → fix.Reachable := by
  intro fix ran
  obtain ⟨plan, cancelled, state, -, rfl, -⟩ := outcome.course_of_fix ran
  exact .ofEntries _

/-- The tries of a chronicle lead from a journal that can be reached to others. -/
theorem Chronicle.reachable {retry : Retry σ} {journal : Journal} {tries : List Try}
    (chronicle : retry.Chronicle journal tries) (reachable : journal.Reachable) :
    (journal.replay tries).Reachable := by
  induction chronicle with
  | nil => exact reachable
  | @snoc tries tried earlier fits ih =>
      rw [Journal.replay_snoc]
      unfold Journal.absorb
      cases ran : tried.fate.fix? with
      | none => exact ih
      | some fix => exact ih.mergeFix _ (fits.outcome.reachable fix ran)

end Retry

namespace Journal

/-- The count, the failing positions and the first failure tell the same. -/
structure Coherent (journal : Journal) : Prop where
  failed_eq :
    journal.failed = journal.entries.countP fun entry => entry.failure.isSome
  /-- To clear a failure takes one from the count, which was not zero. -/
  subtracts : ∀ position entry failure,
    journal.entries[position]? = some entry → entry.failure = some failure →
    0 < journal.failed ∧ (journal.markFixed position).failed + 1 = journal.failed
  increasing : journal.failing.Pairwise (· < ·)
  failing_iff : ∀ position, position ∈ journal.failing ↔
    ∃ entry failure,
      journal.entries[position]? = some entry ∧ entry.failure = some failure
  length_failing_eq : journal.failing.length = journal.failed
  success_iff :
    journal.isSuccess = true ↔ ∀ entry ∈ journal.entries, entry.failure = none
  first_eq : journal.firstFailure? =
    journal.failing.head?.bind fun position => journal.entries[position]?
  /-- An operation at a position without an entry does nothing. -/
  outside : ∀ position, journal.entries.length ≤ position →
    journal.markFixed position = journal ∧
      ∀ output failure, journal.recordFixFailure position output failure = journal
  /-- The audit trail is apart from the entries, whatever the position. -/
  apart : ∀ position fixes,
    (journal.appendFixes position fixes).entries = journal.entries ∧
      (journal.appendFixes position fixes).failed = journal.failed

theorem Counted.coherent {journal : Journal} (counted : journal.Counted) :
    journal.Coherent where
  failed_eq := counted
  subtracts := by
    intro position entry failure found carried
    have failed : entry.failed = true := Entry.failed_iff.mpr ⟨failure, carried⟩
    have one_less := counted.failed_markFixed found failed
    exact ⟨by omega, one_less⟩
  increasing := pairwise_failing journal
  failing_iff := by
    intro position
    rw [mem_failing]
    constructor
    · rintro ⟨entry, found, failed⟩
      obtain ⟨failure, carried⟩ := Entry.failed_iff.mp failed
      exact ⟨entry, failure, found, carried⟩
    · rintro ⟨entry, failure, found, carried⟩
      exact ⟨entry, found, Entry.failed_iff.mpr ⟨failure, carried⟩⟩
  length_failing_eq := counted.length_failing
  success_iff := counted.isSuccess_iff
  first_eq := firstFailure?_eq journal
  outside := fun position beyond =>
    ⟨markFixed_of_length_le beyond, fun output failure =>
      recordFixFailure_of_length_le output failure beyond⟩
  apart := fun _ _ => ⟨rfl, rfl⟩

/--
Every journal that can be reached is coherent, and running plans and retries
leads to none but these: the journal of a plan can be reached, and from a journal
that can be reached a retry passes, try after try, only through others.
-/
theorem reachable_coherent :
    (∀ journal : Journal, journal.Reachable → journal.Coherent) ∧
    (∀ (σ : Type) (executor : Executor) (runner : Runner σ) (watched : Bool)
      (plan : Plan) (cancelled : Bool) (state : σ),
      (executor.runPlan runner watched plan cancelled state).journal.Reachable) ∧
    ∀ (σ : Type) (retry : Retry σ) (journal : Journal) (cancelled : Bool) (state : σ),
      journal.Reachable →
      (retry.run journal cancelled state).journal.Reachable ∧
        ∀ earlier later,
          (retry.run journal cancelled state).tries = earlier ++ later →
          (journal.replay earlier).Reachable := by
  refine ⟨fun journal reachable => reachable.counted.coherent, ?_, ?_⟩
  · intro σ executor runner watched plan cancelled state
    exact .ofEntries _
  · intro σ retry journal cancelled state reachable
    obtain ⟨chronicle, written⟩ := retry.run_chronicle journal cancelled state
    constructor
    · rw [written]
      exact chronicle.reachable reachable
    · intro earlier later split
      rw [split] at chronicle
      exact chronicle.init.reachable reachable

/-- A failure that is cleared twice, before another is recorded, is counted once. -/
theorem coherent_cleared_twice :
    let journal := (((empty.push { failure := some .cancelled }).push {}).markFixed
      0).markFixed 0 |>.recordFixFailure 1 "" .emptyCommand
    journal.Coherent ∧ journal.failing = [1] ∧ journal.failed = 1 :=
  ⟨reachable_coherent.1 _ (.recordFixFailure
    (.markFixed (.markFixed (.push (.push .empty _) _) 0) 0) 1 _ _), rfl, rfl⟩

end Journal

end PlanGuard
