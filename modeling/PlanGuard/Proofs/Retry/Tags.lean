import PlanGuard.Proofs.Retry.Accounting
import PlanGuard.Proofs.Retry.Reachable
import PlanGuard.Proofs.Retry.Audit

/-!
# What the marks of an audit trail point at

A journal is assembled by its operations, from fixes that were assembled in the same way and
that are appended at positions of entries.  Its audit trail falls into blocks, one for
each fix that was appended.  In front are the entries of the fix, marked with a position of
the journal, and behind them stands the trail of the fix, with its marks as they were: those
were made at the fix, or at a fix in it, and nothing says that the journal has entries at
such positions.  Where no fix has a trail, as in a retry, all marks point at entries.
-/

namespace PlanGuard

def Entry.PointsWithin (count : Nat) (entry : Entry) : Prop :=
  ∃ position, entry.fixFor = some position ∧ position < count

namespace Journal

/-- What the operations lead to if fixes are only appended at positions of entries. -/
inductive Assembled : Journal → Prop where
  | empty : Assembled .empty
  | push {journal : Journal} (assembled : Assembled journal) (entry : Entry) :
      Assembled (journal.push entry)
  | markFixed {journal : Journal} (assembled : Assembled journal) (position : Nat) :
      Assembled (journal.markFixed position)
  | recordFixFailure {journal : Journal} (assembled : Assembled journal)
      (position : Nat) (output : String) (failure : Failure) :
      Assembled (journal.recordFixFailure position output failure)
  | appendFixes {journal fixes : Journal} (assembled : Assembled journal) {position : Nat}
      (inside : position < journal.entries.length) (appended : Assembled fixes) :
      Assembled (journal.appendFixes position fixes)

def Pointed (journal : Journal) : Prop :=
  ∀ entry ∈ journal.audit, entry.PointsWithin journal.entries.length

/-! ## Blocks -/

/-- A fix with the position at which it was appended. -/
structure Block where
  position : Nat
  fixes : Journal

def Block.trail (block : Block) : List Entry :=
  block.fixes.entries.map (Entry.asFixFor block.position) ++ block.fixes.audit

/-- The blocks that make up the audit trail of a journal. -/
structure Blocks (journal : Journal) (blocks : List Block) : Prop where
  audit : journal.audit = blocks.flatMap Block.trail
  inside : ∀ block ∈ blocks, block.position < journal.entries.length
  assembled : ∀ block ∈ blocks, block.fixes.Assembled

/--
An entry of an audit trail, and the journal at which it was marked: the one that has the
trail, or a fix in it, at any depth.
-/
inductive MarkedAt : (journal owner : Journal) → Entry → Prop where
  | own {journal : Journal} {blocks : List Block} {block : Block} {written : Entry}
      (split : Blocks journal blocks) (among : block ∈ blocks)
      (member : written ∈ block.fixes.entries) :
      MarkedAt journal journal (written.asFixFor block.position)
  | nested {journal owner : Journal} {blocks : List Block} {block : Block} {entry : Entry}
      (split : Blocks journal blocks) (among : block ∈ blocks)
      (inner : MarkedAt block.fixes owner entry) : MarkedAt journal owner entry

/-- Every entry in the trail points at an entry of the journal at which it was marked. -/
def Homed (journal : Journal) : Prop :=
  ∀ entry ∈ journal.audit, ∃ owner, MarkedAt journal owner entry ∧
    entry.PointsWithin owner.entries.length

theorem length_entries_markFixed (journal : Journal) (position : Nat) :
    (journal.markFixed position).entries.length = journal.entries.length := by
  rw [entries_markFixed, List.length_modify]

theorem length_entries_recordFixFailure (journal : Journal) (position : Nat) (output : String)
    (failure : Failure) :
    (journal.recordFixFailure position output failure).entries.length =
      journal.entries.length := by
  rw [entries_recordFixFailure, List.length_modify]

/-- Blocks stay what they are where the trail does and no entry goes. -/
theorem Blocks.of_audit_eq {journal other : Journal} {blocks : List Block}
    (split : Blocks journal blocks) (same : other.audit = journal.audit)
    (grown : journal.entries.length ≤ other.entries.length) : Blocks other blocks where
  audit := same.trans split.audit
  inside := fun block member => Nat.lt_of_lt_of_le (split.inside block member) grown
  assembled := split.assembled

/-- Of a journal only the entries that it has marked itself are new to a trail. -/
theorem Blocks.homed {journal : Journal} {blocks : List Block} (split : Blocks journal blocks)
    (inner : ∀ block ∈ blocks, block.fixes.Homed) : journal.Homed := by
  intro entry member
  rw [split.audit] at member
  obtain ⟨block, among, added⟩ := List.mem_flatMap.mp member
  rcases List.mem_append.mp added with own | nested
  · obtain ⟨written, listed, rfl⟩ := List.mem_map.mp own
    exact ⟨journal, .own split among listed, block.position, rfl, split.inside block among⟩
  · obtain ⟨owner, marked, points⟩ := inner block among entry nested
    exact ⟨owner, .nested split among marked, points⟩

theorem Assembled.exists_blocks {journal : Journal} (assembled : journal.Assembled) :
    ∃ blocks, Blocks journal blocks ∧ ∀ block ∈ blocks, block.fixes.Homed := by
  induction assembled with
  | empty =>
      exact ⟨[], ⟨rfl, List.forall_mem_nil _, List.forall_mem_nil _⟩, List.forall_mem_nil _⟩
  | push assembled entry ih =>
      obtain ⟨blocks, split, homed⟩ := ih
      refine ⟨blocks, split.of_audit_eq rfl ?_, homed⟩
      unfold Journal.push
      rw [List.length_append]
      exact Nat.le_add_right _ _
  | @markFixed journal assembled position ih =>
      obtain ⟨blocks, split, homed⟩ := ih
      refine ⟨blocks, split.of_audit_eq (audit_markFixed journal position) ?_, homed⟩
      exact Nat.le_of_eq (journal.length_entries_markFixed position).symm
  | @recordFixFailure journal assembled position output failure ih =>
      obtain ⟨blocks, split, homed⟩ := ih
      refine ⟨blocks, split.of_audit_eq (audit_recordFixFailure ..) ?_, homed⟩
      exact Nat.le_of_eq (journal.length_entries_recordFixFailure position output failure).symm
  | @appendFixes journal fixes assembled position inside appended ih further =>
      -- The one operation that adds a block; that its fix is homed comes from its own blocks.
      obtain ⟨blocks, split, homed⟩ := ih
      obtain ⟨inner, nested, homes⟩ := further
      refine ⟨blocks ++ [⟨position, fixes⟩], ⟨?_, ?_, ?_⟩, ?_⟩
      · rw [List.flatMap_append, List.flatMap_singleton, ← split.audit]
        rfl
      · exact List.forall_mem_append.mpr ⟨split.inside, List.forall_mem_singleton.mpr inside⟩
      · exact List.forall_mem_append.mpr
          ⟨split.assembled, List.forall_mem_singleton.mpr appended⟩
      · exact List.forall_mem_append.mpr
          ⟨homed, List.forall_mem_singleton.mpr (nested.homed homes)⟩

/-- The entries of the fixes are marked as they should be, so all depends on their trails. -/
theorem Blocks.pointed_iff {journal : Journal} {blocks : List Block}
    (split : Blocks journal blocks) :
    journal.Pointed ↔ ∀ block ∈ blocks, ∀ entry ∈ block.fixes.audit,
      entry.PointsWithin journal.entries.length := by
  unfold Pointed
  rw [split.audit]
  constructor
  · intro pointed block member entry among
    exact pointed entry (List.mem_flatMap.mpr ⟨block, member, List.mem_append_right _ among⟩)
  · intro pointed entry member
    obtain ⟨block, among, added⟩ := List.mem_flatMap.mp member
    rcases List.mem_append.mp added with own | nested
    · obtain ⟨written, -, rfl⟩ := List.mem_map.mp own
      exact ⟨block.position, rfl, split.inside block among⟩
    · exact pointed block among entry nested

/-- Every entry that is appended has the mark if those of the fix's own trail had it before. -/
theorem marked_appendFixes_iff (journal : Journal) (position : Nat) (fixes : Journal) :
    (∀ entry ∈ (journal.appendFixes position fixes).audit.drop journal.audit.length,
      entry.fixFor = some position) ↔
      ∀ entry ∈ fixes.audit, entry.fixFor = some position := by
  unfold appendFixes
  rw [List.drop_left, List.forall_mem_append]
  refine and_iff_right ?_
  intro entry member
  obtain ⟨written, -, rfl⟩ := List.mem_map.mp member
  rfl

/-! ## Plans and retries -/

theorem Assembled.ofEntries (entries : List Entry) : (Journal.ofEntries entries).Assembled :=
  ofEntries_induction .empty (fun _ entry assembled => assembled.push entry) entries

theorem Assembled.mergeFix {journal fix : Journal} (assembled : journal.Assembled)
    {position : Nat} (inside : position < journal.entries.length) (appended : fix.Assembled) :
    (journal.mergeFix position fix).Assembled := by
  obtain ⟨merged, same, rfl | rfl | ⟨output, failure, rfl⟩⟩ :=
    journal.mergeFix_cases position fix
  · exact same ▸ assembled.appendFixes inside appended
  · rw [← length_entries_markFixed journal position] at inside
    exact same ▸ (assembled.markFixed position).appendFixes inside appended
  · rw [← length_entries_recordFixFailure journal position output failure] at inside
    exact same ▸ (assembled.recordFixFailure position output failure).appendFixes inside
      appended

end Journal

namespace Retry

variable {σ : Type} {retry : Retry σ} {journal : Journal} {tries : List Try}

theorem Outcome.assembled {advice : Advice} {fate : Fate} (outcome : retry.Outcome advice fate) :
    ∀ fix, fate.fix? = some fix → fix.Assembled := by
  intro fix ran
  obtain ⟨plan, cancelled, state, -, rfl, -⟩ := outcome.course_of_fix ran
  exact .ofEntries _

/-- A fix is appended at the position that it was asked for, which has an entry. -/
theorem Chronicle.assembled (chronicle : retry.Chronicle journal tries)
    (assembled : journal.Assembled) : (journal.replay tries).Assembled := by
  induction chronicle with
  | nil => exact assembled
  | @snoc tries tried earlier fits ih =>
      rw [Journal.replay_snoc]
      unfold Journal.absorb
      cases ran : tried.fate.fix? with
      | none => exact ih
      | some fix =>
          obtain ⟨inside, -⟩ := List.getElem?_eq_some_iff.mp fits.found
          exact ih.mergeFix inside (fits.outcome.assembled fix ran)

/-- The fixes of a retry have no trails, so that no mark comes from elsewhere. -/
theorem Chronicle.pointed (chronicle : retry.Chronicle journal tries)
    (pointed : journal.Pointed) : (journal.replay tries).Pointed := by
  unfold Journal.Pointed
  rw [Journal.audit_replay, Journal.length_replay journal chronicle.counted]
  refine List.forall_mem_append.mpr ⟨pointed, ?_⟩
  intro entry member
  obtain ⟨tried, among, added⟩ := List.mem_flatMap.mp member
  exact ⟨tried.position, (chronicle.bare tried among).fixFor entry added,
    chronicle.position_lt tried among⟩

end Retry

namespace Journal

/--
What the marks of an audit trail point at.  Every entry in the trail of a journal that is
assembled is marked with a position of the journal at which it was marked, which is that
journal or a fix in it.  The trail falls into blocks, the entries of a fix with the trail of
that fix behind them, and all marks point at entries of the journal itself exactly if those
in the trails that came with fixes do.  Of what is appended at a position all is marked with
it exactly if all in the trail of the fix was.  The journal of a plan has no trail, so that
a retry, at its end and after each of its tries, leaves only marks that point at entries of
the journal where it has found only such.
-/
theorem assembled_marks {journal : Journal} (assembled : journal.Assembled) :
    journal.Homed ∧
    (∃ blocks, Blocks journal blocks ∧
      (journal.Pointed ↔ ∀ block ∈ blocks, ∀ entry ∈ block.fixes.audit,
        entry.PointsWithin journal.entries.length)) ∧
    (∀ (position : Nat) (fixes : Journal),
      (∀ entry ∈ (journal.appendFixes position fixes).audit.drop journal.audit.length,
        entry.fixFor = some position) ↔
        ∀ entry ∈ fixes.audit, entry.fixFor = some position) ∧
    (∀ (σ : Type) (executor : Executor) (runner : Runner σ) (watched : Bool)
      (plan : Plan) (cancelled : Bool) (state : σ),
      let ran := (executor.runPlan runner watched plan cancelled state).journal
      ran.Assembled ∧ ran.audit = []) ∧
    ∀ (σ : Type) (retry : Retry σ) (cancelled : Bool) (state : σ),
      let done := retry.run journal cancelled state
      done.journal.Assembled ∧ (journal.Pointed → done.journal.Pointed) ∧
        ∀ earlier later, done.tries = earlier ++ later →
          (journal.replay earlier).Assembled ∧
            (journal.Pointed → (journal.replay earlier).Pointed) := by
  obtain ⟨blocks, split, homed⟩ := assembled.exists_blocks
  refine ⟨split.homed homed, ⟨blocks, split, split.pointed_iff⟩,
    marked_appendFixes_iff journal, ?_, ?_⟩
  · intro σ executor runner watched plan cancelled state
    exact ⟨.ofEntries _, audit_ofEntries _⟩
  · intro σ retry cancelled state
    obtain ⟨chronicle, written⟩ := retry.run_chronicle journal cancelled state
    dsimp only
    rw [written]
    refine ⟨chronicle.assembled assembled, chronicle.pointed, ?_⟩
    intro earlier later cut
    rw [cut] at chronicle
    exact ⟨chronicle.init.assembled assembled, chronicle.init.pointed⟩

/-- A fix of two commands, of which the second has failed and was fixed in turn. -/
def remedied : Journal :=
  ((empty.push { argv := ["reset"] }).push { argv := ["sync"], failure := some (.exit 2) })
    |>.appendFixes 1 (empty.push { argv := ["mount"] })

theorem remedied_assembled : remedied.Assembled :=
  .appendFixes (.push (.push .empty _) _) (by decide) (.push .empty _)

theorem remedied_marks :
    (∃ owner, MarkedAt remedied owner { argv := ["mount"], fixFor := some 1 } ∧
      1 < owner.entries.length) ∧
      (Retry.stubborn.run Retry.stubbornJournal false ()).journal.Pointed ∧
      (Retry.stubborn.run Retry.stubbornJournal false ()).journal.audit.map (·.fixFor) =
        [some 0, some 2, some 0] := by
  obtain ⟨homed, -⟩ := assembled_marks remedied_assembled
  obtain ⟨owner, marked, position, same, inside⟩ :=
    homed { argv := ["mount"], fixFor := some 1 } (by decide)
  obtain rfl := Option.some.inj same
  have stubborn : Retry.stubbornJournal.Assembled := .ofEntries _
  obtain ⟨-, -, -, -, retried⟩ := assembled_marks stubborn
  have pointed := (retried Unit Retry.stubborn false ()).2.1 (List.forall_mem_nil _)
  exact ⟨⟨owner, marked, inside⟩, pointed, by decide +kernel⟩

def nested : Journal :=
  (empty.push { argv := ["update"], failure := some (.exit 1) }).appendFixes 0 remedied

/-- The last mark points at an entry of the fix, and there is none at that position here. -/
theorem nested_mark_dangles :
    nested.Assembled ∧ nested.entries.length = 1 ∧
      nested.audit.map (·.fixFor) = [some 0, some 0, some 1] ∧ ¬nested.Pointed := by
  refine ⟨.appendFixes (.push .empty _) (by decide) remedied_assembled, rfl, rfl, ?_⟩
  intro pointed
  obtain ⟨position, marked, inside⟩ := pointed
    { argv := ["mount"], fixFor := some 1 } (by decide)
  obtain rfl := Option.some.inj marked
  exact absurd inside (by decide)

end Journal

end PlanGuard
