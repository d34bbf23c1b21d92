import PlanGuard.Proofs.Retry.Chronicle

/-!
# The audit trail that tries leave

A try that has run a fix adds the entries of the fix to the audit trail, each marked
with the position that the fix was meant for.  Nothing else touches the trail, so the
trail after some tries is the one before them with their parts added in turn.
-/

namespace PlanGuard

def Try.audit (tried : Try) : List Entry :=
  match tried.fate.fix? with
  | some fix => fix.entries.map (Entry.asFixFor tried.position) ++ fix.audit
  | none => []

/-- The fix that a try has run, if any, has no audit trail of its own. -/
def Try.Bare (tried : Try) : Prop :=
  ∀ fix, tried.fate.fix? = some fix → fix.audit = []

namespace Journal

@[simp] theorem audit_markFixed (journal : Journal) (position : Nat) :
    (journal.markFixed position).audit = journal.audit := by
  unfold markFixed
  split
  · split <;> rfl
  · rfl

@[simp] theorem audit_recordFixFailure (journal : Journal) (position : Nat)
    (output : String) (failure : Failure) :
    (journal.recordFixFailure position output failure).audit = journal.audit := by
  unfold recordFixFailure
  split <;> rfl

theorem audit_mergeFix (journal : Journal) (position : Nat) (fix : Journal) :
    (journal.mergeFix position fix).audit = journal.audit ++
      (fix.entries.map (Entry.asFixFor position) ++ fix.audit) := by
  obtain ⟨merged, same, rfl | rfl | ⟨output, failure, rfl⟩⟩ :=
    journal.mergeFix_cases position fix
  · rw [same, appendFixes]
  · rw [same, appendFixes, audit_markFixed]
  · rw [same, appendFixes, audit_recordFixFailure]

theorem audit_absorb (journal : Journal) (tried : Try) :
    (journal.absorb tried).audit = journal.audit ++ tried.audit := by
  unfold absorb Try.audit
  cases tried.fate.fix? with
  | none => exact (List.append_nil _).symm
  | some fix => exact journal.audit_mergeFix tried.position fix

/-- Every try adds its part to the audit trail, in turn. -/
theorem audit_replay (journal : Journal) (tries : List Try) :
    (journal.replay tries).audit = journal.audit ++ tries.flatMap Try.audit := by
  induction tries generalizing journal with
  | nil => exact (List.append_nil _).symm
  | cons tried rest ih =>
      unfold replay at *
      rw [List.foldl_cons, ih, audit_absorb, List.flatMap_cons, List.append_assoc]

end Journal

namespace Try

theorem Bare.exists_of_mem_audit {tried : Try} (bare : tried.Bare) {entry : Entry}
    (member : entry ∈ tried.audit) :
    ∃ fix written, tried.fate.fix? = some fix ∧ written ∈ fix.entries ∧
      written.asFixFor tried.position = entry := by
  unfold audit at member
  cases ran : tried.fate.fix? with
  | none =>
      rw [ran] at member
      cases member
  | some fix =>
      rw [ran] at member
      dsimp only at member
      rw [bare fix ran, List.append_nil] at member
      obtain ⟨written, among, marked⟩ := List.mem_map.mp member
      exact ⟨fix, written, rfl, among, marked⟩

theorem Bare.fixFor {tried : Try} (bare : tried.Bare) :
    ∀ fix ∈ tried.audit, fix.fixFor = some tried.position := by
  intro entry member
  obtain ⟨_, _, _, _, rfl⟩ := bare.exists_of_mem_audit member
  rfl

end Try

/-- A fix was run as plans are, so it has no audit trail of its own. -/
theorem Retry.Outcome.bare {σ : Type} {retry : Retry σ} {advice : Advice} {fate : Fate}
    (outcome : retry.Outcome advice fate) :
    ∀ fix, fate.fix? = some fix → fix.audit = [] := by
  intro fix ran
  obtain ⟨_, _, _, -, rfl, -⟩ := outcome.course_of_fix ran
  exact Journal.audit_ofEntries _

theorem Retry.Chronicle.bare {σ : Type} {retry : Retry σ} {journal : Journal}
    {tries : List Try} (chronicle : retry.Chronicle journal tries) :
    ∀ tried ∈ tries, tried.Bare :=
  fun tried member => (chronicle.outcome tried member).bare

end PlanGuard
