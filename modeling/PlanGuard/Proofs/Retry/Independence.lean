import PlanGuard.Proofs.Retry.Audit
import PlanGuard.Proofs.Retry.Steady
import Mathlib.Algebra.BigOperators.Group.List.Basic
import Mathlib.Algebra.GroupWithZero.Nat
import Mathlib.Data.List.Nodup

/-!
# Failing entries do not interfere with each other

A steady retry of many entries is one of each entry alone.  An entry ends as it would
alone, with the same fixes in the audit trail, and the counts in the report are those
of the retries of single entries taken together: a run makes attempts as long as one
of its entries fails, and every question is about one of them.
-/

namespace PlanGuard

/-! ## The audit trail by position -/

namespace Try

/-- About another position, a try would mark its fixes with that one. -/
theorem Bare.audit_moved {tried : Try} (bare : tried.Bare) (position : Nat) :
    (tried.moved position).audit = tried.audit.map (Entry.asFixFor position) := by
  have same : (tried.moved position).fate = tried.fate := rfl
  unfold audit
  rw [same]
  cases ran : tried.fate.fix? with
  | none => rfl
  | some journal =>
      dsimp only
      rw [bare journal ran, List.append_nil, List.append_nil, List.map_map]
      rfl

end Try

theorem filter_audit {tries : List Try} (bare : ∀ tried ∈ tries, tried.Bare)
    (position : Nat) :
    (tries.flatMap Try.audit).filter (fun fix => fix.fixFor == some position) =
      (triesAt position tries).flatMap Try.audit := by
  induction tries with
  | nil => rfl
  | cons tried rest ih =>
      have marked := (bare tried List.mem_cons_self).fixFor
      rw [List.flatMap_cons, List.filter_append,
        ih fun other member => bare other (List.mem_cons_of_mem tried member)]
      unfold triesAt
      rw [List.filter_cons]
      by_cases here : tried.position = position
      · rw [if_pos (beq_iff_eq.mpr here), List.flatMap_cons, List.filter_eq_self.mpr]
        intro fix member
        rw [marked fix member, here]
        exact beq_self_eq_true _
      · rw [if_neg (by simpa using here), List.filter_eq_nil_iff.mpr, List.nil_append]
        intro fix member
        rw [marked fix member]
        simpa using here

namespace Retry.Chronicle

variable {σ : Type} {retry : Retry σ} {journal : Journal} {tries : List Try}

theorem triesAt_zero (chronicle : retry.Chronicle journal tries)
    (single : journal.entries.length = 1) : triesAt 0 tries = tries := by
  refine List.filter_eq_self.mpr fun tried member => ?_
  have inside := chronicle.position_lt tried member
  rw [single] at inside
  exact beq_iff_eq.mpr (Nat.lt_one_iff.mp inside)

end Retry.Chronicle

/-! ## Sums over tries -/

theorem sum_triesAt (weight : Try → Nat) {tries : List Try} {bound : Nat}
    (inside : ∀ tried ∈ tries, tried.position < bound) :
    (tries.map weight).sum =
      ((List.range bound).map fun position =>
        ((triesAt position tries).map weight).sum).sum := by
  induction tries with
  | nil => simp [triesAt]
  | cons tried rest ih =>
      have later := ih fun other member => inside other (List.mem_cons_of_mem tried member)
      have here : tried.position ∈ List.range bound :=
        List.mem_range.mpr (inside tried List.mem_cons_self)
      -- One of the positions is that of the new try.
      have single : ((List.range bound).map fun position =>
          if tried.position = position then weight tried else 0).sum = weight tried := by
        rw [List.sum_map_eq_nsmul_single tried.position, if_pos rfl,
          List.count_eq_one_of_mem List.nodup_range here, one_nsmul]
        intro other elsewhere _
        exact if_neg (Ne.symm elsewhere)
      have split (position : Nat) :
          ((triesAt position (tried :: rest)).map weight).sum =
            (if tried.position = position then weight tried else 0) +
              ((triesAt position rest).map weight).sum := by
        unfold triesAt
        rw [List.filter_cons]
        by_cases same : tried.position = position
        · rw [if_pos (beq_iff_eq.mpr same), if_pos same, List.map_cons, List.sum_cons]
        · rw [if_neg (by simpa using same), if_neg same, Nat.zero_add]
      simp only [split]
      rw [List.map_cons, List.sum_cons, later, List.sum_map_add, single]

namespace RetryReport

/-- A question adds to every count what it adds to one that starts from nothing. -/
theorem count_eq (report : RetryReport) (fate : Fate) :
    let added := ({} : RetryReport).count fate
    report.count fate =
      { report with
        requested := report.requested + added.requested
        applied := report.applied + added.applied
        failed := report.failed + added.failed
        rejected := report.rejected + added.rejected
        unavailable := report.unavailable + added.unavailable } := by
  unfold count
  cases fate with
  | unavailable => rfl
  | rejected => rfl
  | ran plan fix exchanges => cases success : fix.isSuccess <;> simp [success]

/--
A count that the questions of a retry add to, each by what became of it, and that
the start of an attempt leaves alone.
-/
structure Gauge (read : RetryReport → Nat) : Prop where
  fresh : read {} = 0
  attempts : ∀ report attempts, read { report with attempts } = read report
  count : ∀ report fate,
    read (report.count fate) = read report + read (({} : RetryReport).count fate)

theorem gauge_of_mem {read : RetryReport → Nat}
    (member : read ∈ [requested, applied, failed, rejected, unavailable]) : Gauge read := by
  simp only [List.mem_cons, List.not_mem_nil, or_false] at member
  rcases member with rfl | rfl | rfl | rfl | rfl
  all_goals exact ⟨rfl, fun _ _ => rfl, fun report fate => by rw [count_eq]⟩

/-- Reports taken together: the most attempts, and the sum of every count. -/
def total (reports : List RetryReport) : RetryReport :=
  { attempts := (reports.map (·.attempts)).foldr max 0
    requested := (reports.map (·.requested)).sum
    applied := (reports.map (·.applied)).sum
    failed := (reports.map (·.failed)).sum
    rejected := (reports.map (·.rejected)).sum
    unavailable := (reports.map (·.unavailable)).sum
    remaining := (reports.map (·.remaining)).sum }

end RetryReport

namespace Retry

variable {σ : Type}

theorem read_reached (retry : Retry σ) {read : RetryReport → Nat}
    (gauge : RetryReport.Gauge read) (journal : Journal) (cancelled : Bool) (state : σ)
    (made : Nat) :
    read (retry.reached journal cancelled state made).report =
      ((retry.reached journal cancelled state made).tries.map fun tried =>
        read (({} : RetryReport).count tried.fate)).sum := by
  refine retry.reached_induction journal cancelled state
    (P := fun run => read run.report =
      (run.tries.map fun tried => read (({} : RetryReport).count tried.fate)).sum)
    gauge.fresh ?_ ?_ made
  · intro attempt run holds
    exact (gauge.attempts run.report attempt).trans holds
  · intro attempt position entry run holds _ found _
    obtain ⟨tried, asked, -, -, -, -, -, made⟩ := retry.fixOne_eq attempt found
    rw [made]
    dsimp only
    rw [gauge.count, holds, List.map_append, List.sum_append, List.map_singleton,
      List.sum_singleton]

theorem countP_failed_eq_sum (entries : List Entry) :
    entries.countP Entry.failed = (entries.map fun entry => entry.failed.toNat).sum := by
  induction entries with
  | nil => rfl
  | cons entry rest ih =>
      rw [List.countP_cons, List.map_cons, List.sum_cons, ih, Nat.add_comm]
      cases entry.failed <;> rfl

theorem foldr_max_le_iff {numbers : List Nat} {bound : Nat} :
    numbers.foldr max 0 ≤ bound ↔ ∀ number ∈ numbers, number ≤ bound := by
  induction numbers with
  | nil => simp
  | cons number rest ih =>
      rw [List.foldr_cons, Nat.max_le, ih, List.forall_mem_cons]

/-! ## One run and the runs of its entries alone -/

theorem counted_reached_ofEntries (retry : Retry σ) (entries : List Entry) (state : σ)
    (made : Nat) : (retry.reached (.ofEntries entries) false state made).journal.Counted :=
  retry.counted_reached _ false state (Journal.counted_ofEntries entries) made

namespace Steady

variable {retry : Retry σ} {reply : Argv → Reply} {advice : Question → Advice}
  (steady : retry.Steady reply advice) (entries : List Entry) (state other : σ)

include steady

/-- A position goes the way that its entry would go alone. -/
theorem agree_alone {position : Nat} {entry : Entry}
    (found : entries[position]? = some entry) (made : Nat) :
    triesAt position (retry.reached (.ofEntries entries) false state made).tries =
        (retry.reached (.ofEntries [entry]) false other made).tries.map
          (.moved position) ∧
      ∃ after,
        (retry.reached (.ofEntries entries) false state made).journal.entries[position]? =
          some after ∧
        (retry.reached (.ofEntries [entry]) false other made).journal.entries =
          [after] := by
  have single : (Journal.ofEntries [entry]).entries = [entry] :=
    Journal.entries_ofEntries [entry]
  have same : (Journal.ofEntries entries).entries[position]? =
      (Journal.ofEntries [entry]).entries[0]? := by
    rw [Journal.entries_ofEntries, single, found]
    rfl
  obtain ⟨tries, stands⟩ := steady.agree (Journal.counted_ofEntries entries)
    (Journal.counted_ofEntries [entry]) same state other made
  obtain ⟨chronicle, written⟩ :=
    retry.reached_chronicle (.ofEntries [entry]) false other made
  rw [chronicle.triesAt_zero (by rw [single]; rfl)] at tries
  have length : (retry.reached (.ofEntries [entry]) false other
      made).journal.entries.length = 1 := by
    rw [written, Journal.length_replay _ chronicle.counted, single]
    rfl
  obtain ⟨after, only⟩ := List.length_eq_one_iff.mp length
  refine ⟨tries, after, ?_, only⟩
  rw [stands, only]
  rfl

theorem isSuccess_reached (made : Nat) :
    (retry.reached (.ofEntries entries) false state made).journal.isSuccess = true ↔
      ∀ entry ∈ entries,
        (retry.reached (.ofEntries [entry]) false other made).journal.isSuccess = true := by
  rw [(retry.counted_reached_ofEntries entries state made).isSuccess_iff]
  constructor
  · intro clear entry member
    obtain ⟨position, found⟩ := List.mem_iff_getElem?.mp member
    obtain ⟨-, after, stands, only⟩ :=
      steady.agree_alone entries state other found made
    rw [(retry.counted_reached_ofEntries [entry] other made).isSuccess_iff, only,
      List.forall_mem_singleton]
    exact clear after (List.mem_of_getElem? stands)
  · intro alone standing member
    obtain ⟨position, stands⟩ := List.mem_iff_getElem?.mp member
    have inside : position < entries.length := by
      have bound := (List.getElem?_eq_some_iff.mp stands).1
      rwa [retry.length_reached, Journal.entries_ofEntries] at bound
    have found := List.getElem?_eq_getElem inside
    obtain ⟨-, after, here, only⟩ := steady.agree_alone entries state other found made
    have clear := alone _ (List.getElem_mem inside)
    rw [(retry.counted_reached_ofEntries _ other made).isSuccess_iff, only,
      List.forall_mem_singleton] at clear
    rw [here, Option.some.injEq] at stands
    rw [← stands]
    exact clear

/-! ### Attempts -/

/-- An attempt is made exactly where something still fails. -/
theorem attempts_reached_succ (journal : Journal) (made : Nat) :
    (retry.reached journal false state (made + 1)).report.attempts =
      if (retry.reached journal false state made).journal.isSuccess then
        (retry.reached journal false state made).report.attempts
      else made + 1 := by
  obtain ⟨live, -⟩ := steady.reached_foreseen journal state state made
  rw [Retry.attempts_reached_succ]
  dsimp only
  rw [live, Bool.or_false]

theorem attempts_reached (made : Nat) :
    (retry.reached (.ofEntries entries) false state made).report.attempts =
      (entries.map fun entry =>
        (retry.reached (.ofEntries [entry]) false other made).report.attempts).foldr max
          0 := by
  induction made with
  | zero =>
      refine (Nat.le_zero.mp (foldr_max_le_iff.mpr ?_)).symm
      intro number member
      obtain ⟨entry, -, rfl⟩ := List.mem_map.mp member
      exact Nat.le_refl 0
  | succ made ih =>
      rw [steady.attempts_reached_succ]
      cases success : (retry.reached (.ofEntries entries) false state made).journal.isSuccess with
      | true =>
          have alone := (steady.isSuccess_reached entries state other made).mp success
          rw [if_pos rfl, ih]
          congr 1
          refine List.map_congr_left fun entry member => ?_
          rw [steady.attempts_reached_succ, if_pos (alone entry member)]
      | false =>
          rw [if_neg Bool.false_ne_true]
          apply Nat.le_antisymm
          · -- An entry that still fails takes this attempt alone as well.
            have some : ∃ entry ∈ entries, (retry.reached (.ofEntries [entry]) false other
                made).journal.isSuccess = false := by
              by_contra none
              have all := (steady.isSuccess_reached entries state other made).mpr
                fun entry member => by
                  by_contra fails
                  exact none ⟨entry, member, eq_false_of_ne_true fails⟩
              rw [success] at all
              cases all
            obtain ⟨entry, member, fails⟩ := some
            refine foldr_max_le_iff.mp (Nat.le_refl _) _
              (List.mem_map.mpr ⟨entry, member, ?_⟩)
            rw [steady.attempts_reached_succ, fails]
            rfl
          · rw [foldr_max_le_iff]
            intro number member
            obtain ⟨entry, -, rfl⟩ := List.mem_map.mp member
            exact retry.attempts_reached_le _ false other _

/-! ### Counts -/

/-- The questions of a run are those of its entries alone, counted together. -/
theorem read_reached_eq {read : RetryReport → Nat} (gauge : RetryReport.Gauge read)
    (made : Nat) :
    read (retry.reached (.ofEntries entries) false state made).report =
      (entries.map fun entry =>
        read (retry.reached (.ofEntries [entry]) false other made).report).sum := by
  obtain ⟨chronicle, -⟩ := retry.reached_chronicle (.ofEntries entries) false state made
  have inside := chronicle.position_lt
  rw [Journal.entries_ofEntries] at inside
  rw [retry.read_reached gauge, sum_triesAt _ inside]
  congr 1
  apply List.ext_getElem (by simp)
  intro position bound _
  rw [List.length_map, List.length_range] at bound
  obtain ⟨tries, -⟩ := steady.agree_alone entries state other
    (List.getElem?_eq_getElem bound) made
  rw [List.getElem_map, List.getElem_map, List.getElem_range, tries,
    retry.read_reached gauge, List.map_map]
  rfl

theorem failed_reached (made : Nat) :
    (retry.reached (.ofEntries entries) false state made).journal.failed =
      (entries.map fun entry =>
        (retry.reached (.ofEntries [entry]) false other made).journal.failed).sum := by
  rw [retry.counted_reached_ofEntries entries state made, countP_failed_eq_sum]
  congr 1
  apply List.ext_getElem (by simp [retry.length_reached])
  intro position bound _
  rw [List.length_map, retry.length_reached, Journal.entries_ofEntries] at bound
  obtain ⟨-, after, stands, only⟩ := steady.agree_alone entries state other
    (List.getElem?_eq_getElem bound) made
  have standing := (List.getElem?_eq_some_iff.mp stands).2
  rw [List.getElem_map, List.getElem_map, standing,
    retry.counted_reached_ofEntries _ other made, only, countP_failed_eq_sum,
    List.map_singleton, List.sum_singleton]

end Steady

/-! ## The whole run -/

/--
Entries that fail do not interfere with each other, if the runner goes by the argv
and the planner by the question alone and nobody cancels.  After a retry of many
entries, each is as a retry of that entry alone would leave it, from whatever state;
the audit trail holds the same fixes for it in the same order, marked with its
position, and nothing else.  The report is that of the retries of single entries
taken together: as many attempts as the longest of them makes, and the sums of all
other counts.
-/
theorem run_independent (retry : Retry σ) {reply : Argv → Reply}
    {advice : Question → Advice} (steady : retry.Steady reply advice)
    (entries : List Entry) (state other : σ) :
    let joint := retry.run (.ofEntries entries) false state
    let alone (entry : Entry) := retry.run (.ofEntries [entry]) false other
    joint.journal.entries.length = entries.length ∧
      (∀ position entry, entries[position]? = some entry →
        (∃ after, joint.journal.entries[position]? = some after ∧
          (alone entry).journal.entries = [after]) ∧
        joint.journal.audit.filter (fun fix => fix.fixFor == some position) =
          (alone entry).journal.audit.map (Entry.asFixFor position)) ∧
      (∀ fix ∈ joint.journal.audit,
        ∃ position < entries.length, fix.fixFor = some position) ∧
      joint.report = .total (entries.map fun entry => (alone entry).report) := by
  have trail (some : List Entry) (start : σ) :
      (retry.reached (.ofEntries some) false start retry.allowed).journal.audit =
        (retry.reached (.ofEntries some) false start retry.allowed).tries.flatMap
          Try.audit := by
    rw [(retry.reached_chronicle (.ofEntries some) false start retry.allowed).2,
      Journal.audit_replay, Journal.audit_ofEntries, List.nil_append]
  obtain ⟨chronicle, -⟩ :=
    retry.reached_chronicle (.ofEntries entries) false state retry.allowed
  simp only [run_eq_reached]
  refine ⟨?_, ?_, ?_, ?_⟩
  · rw [retry.length_reached, Journal.entries_ofEntries]
  · intro position entry found
    obtain ⟨tries, same⟩ :=
      steady.agree_alone entries state other found retry.allowed
    obtain ⟨single, -⟩ :=
      retry.reached_chronicle (.ofEntries [entry]) false other retry.allowed
    refine ⟨same, ?_⟩
    rw [trail, trail, filter_audit chronicle.bare, tries, List.flatMap_map,
      List.map_flatMap]
    refine List.flatMap_congr fun tried member => ?_
    exact (single.bare tried member).audit_moved position
  · intro fix member
    rw [trail] at member
    obtain ⟨tried, among, marked⟩ := List.mem_flatMap.mp member
    have inside := chronicle.position_lt tried among
    rw [Journal.entries_ofEntries] at inside
    exact ⟨tried.position, inside, (chronicle.bare tried among).fixFor fix marked⟩
  · unfold RetryReport.total
    simp only [List.map_map, Function.comp_def]
    have sums {read : RetryReport → Nat} (counts : read ∈ [RetryReport.requested,
        RetryReport.applied, RetryReport.failed, RetryReport.rejected,
        RetryReport.unavailable]) :=
      steady.read_reached_eq entries state other (RetryReport.gauge_of_mem counts)
        retry.allowed
    rw [steady.attempts_reached entries state other,
      steady.failed_reached entries state other, ← @sums RetryReport.requested (by simp),
      ← @sums RetryReport.applied (by simp), ← @sums RetryReport.failed (by simp),
      ← @sums RetryReport.rejected (by simp), ← @sums RetryReport.unavailable (by simp)]

/-- The runner of the sample fails to remount, and its planner knows two answers. -/
theorem stubborn_steady :
    stubborn.Steady
      (fun argv => { failure := if argv = ["remount"] then some (.exit 1) else none })
      (fun question =>
        let word := if question.command = "mount" then "remount" else "restart"
        { answer := .ok { commands := [{ argv := [word] }] } }) :=
  ⟨fun _ _ _ => rfl, fun _ _ => rfl, fun _ => rfl, fun _ => rfl, fun _ _ => rfl⟩

/-- The entry that cannot be fixed takes two attempts alone, the other one. -/
theorem stubborn_independent :
    (stubborn.run stubbornJournal false ()).report =
      .total
        [{ attempts := 2, requested := 2, failed := 2, remaining := 1 }, {},
          { attempts := 1, requested := 1, applied := 1 }] := by
  obtain ⟨-, -, -, report⟩ :=
    run_independent stubborn stubborn_steady stubbornJournal.entries () ()
  have alone : (stubbornJournal.entries.map fun entry =>
      (stubborn.run (.ofEntries [entry]) false ()).report) =
        [{ attempts := 2, requested := 2, failed := 2, remaining := 1 }, {},
          { attempts := 1, requested := 1, applied := 1 }] := by
    decide +kernel
  rw [alone] at report
  exact report

end Retry

end PlanGuard
