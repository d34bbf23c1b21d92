import PlanGuard.Plan
import Mathlib.Algebra.GroupWithZero.Nat

/-!
# What a limit leaves of a plan

A limit keeps the first commands of a plan, and a limit of zero keeps all.  A
plan that has commands still has some when it has been cut.  Several limits that are
applied in turn leave what the least of them leaves, where zero counts for none, and
each that drops anything says so after those before it.
-/

namespace PlanGuard

namespace Plan

/-- The commands that a limit leaves; a limit of zero leaves all of them. -/
def kept (limit : Nat) (plan : Plan) : List Command :=
  if limit = 0 then plan.commands else plan.commands.take limit

@[simp] theorem commands_truncate (limit : Nat) (plan : Plan) :
    (plan.truncate limit).commands = plan.kept limit := by
  unfold truncate kept excess size
  by_cases unlimited : limit = 0
  · simp [unlimited]
  · rw [if_neg unlimited, if_neg unlimited]
    dsimp only
    split
    next short =>
      rw [List.take_of_length_le (by omega)]
    next long => rfl

theorem length_kept_le {limit : Nat} (limited : 0 < limit) (plan : Plan) :
    (plan.kept limit).length ≤ limit := by
  unfold kept
  rw [if_neg (Nat.ne_of_gt limited)]
  exact List.length_take_le limit plan.commands

theorem mem_of_mem_kept {limit : Nat} {plan : Plan} {command : Command}
    (member : command ∈ plan.kept limit) : command ∈ plan.commands := by
  unfold kept at member
  split at member
  next unlimited => exact member
  next limited => exact List.mem_of_mem_take member

theorem kept_eq_nil_iff {limit : Nat} {plan : Plan} :
    plan.kept limit = [] ↔ plan.commands = [] := by
  unfold kept
  split
  next unlimited => exact Iff.rfl
  next limited => simp [List.take_eq_nil_iff, limited]

theorem size_kept (limit : Nat) (plan : Plan) :
    (plan.kept limit).length = if limit = 0 then plan.size else min plan.size limit := by
  unfold kept size
  split
  next unlimited => rfl
  next limited => rw [List.length_take, Nat.min_comm]

theorem kept_begins (limit : Nat) (plan : Plan) : plan.kept limit <+: plan.commands := by
  unfold kept
  split
  next unlimited => exact List.prefix_rfl
  next limited => exact List.take_prefix limit plan.commands

/-! ## One limit after another -/

@[simp] theorem summary_truncate (limit : Nat) (plan : Plan) :
    (plan.truncate limit).summary = plan.summary := by
  unfold truncate
  dsimp only
  split
  next short => rfl
  next long => rfl

def notice (limit dropped : Nat) : List String :=
  if dropped = 0 then [] else [truncationWarning limit dropped]

theorem warnings_truncate (limit : Nat) (plan : Plan) :
    (plan.truncate limit).warnings = plan.warnings ++ notice limit (plan.excess limit) := by
  unfold truncate notice
  dsimp only
  split
  next short => exact (List.append_nil _).symm
  next long => rfl

theorem size_truncate (limit : Nat) (plan : Plan) :
    (plan.truncate limit).size = if limit = 0 then plan.size else min plan.size limit := by
  rw [← size_kept, size, commands_truncate]

theorem excess_add_size_truncate (limit : Nat) (plan : Plan) :
    plan.excess limit + (plan.truncate limit).size = plan.size := by
  rw [size_truncate, excess]
  split
  next unlimited => exact Nat.zero_add _
  next limited => omega

/-- Limits applied in turn: the plan that is left, and how many commands each dropped. -/
def truncateEach : List Nat → Plan → Plan × List Nat
  | [], plan => (plan, [])
  | limit :: limits, plan =>
      let (last, dropped) := truncateEach limits (plan.truncate limit)
      (last, plan.excess limit :: dropped)

section Each

variable (limits : List Nat) (plan : Plan)

theorem truncateEach_begins : (truncateEach limits plan).1.commands <+: plan.commands := by
  induction limits generalizing plan with
  | nil => exact List.prefix_rfl
  | cons limit limits ih =>
      apply (ih (plan.truncate limit)).trans
      rw [commands_truncate]
      exact kept_begins limit plan

theorem size_truncateEach :
    (truncateEach limits plan).1.size = (limits.filter (· ≠ 0)).foldl min plan.size := by
  induction limits generalizing plan with
  | nil => rfl
  | cons limit limits ih =>
      apply (ih (plan.truncate limit)).trans
      rw [size_truncate]
      by_cases unlimited : limit = 0
      · simp [unlimited]
      · simp [unlimited]

theorem sum_truncateEach :
    (truncateEach limits plan).2.sum + (truncateEach limits plan).1.size = plan.size := by
  induction limits generalizing plan with
  | nil => exact Nat.zero_add _
  | cons limit limits ih =>
      have rest := ih (plan.truncate limit)
      have first := excess_add_size_truncate limit plan
      simp only [truncateEach, List.sum_cons]
      omega

theorem length_truncateEach : (truncateEach limits plan).2.length = limits.length := by
  induction limits generalizing plan with
  | nil => rfl
  | cons limit limits ih => exact congrArg Nat.succ (ih (plan.truncate limit))

theorem summary_truncateEach : (truncateEach limits plan).1.summary = plan.summary := by
  induction limits generalizing plan with
  | nil => rfl
  | cons limit limits ih =>
      exact (ih (plan.truncate limit)).trans (summary_truncate limit plan)

/-- Each limit says what it has to say after what was said before. -/
theorem warnings_truncateEach :
    (truncateEach limits plan).1.warnings = plan.warnings ++
      ((limits.zip (truncateEach limits plan).2).filter (·.2 ≠ 0)).map
        fun cut => truncationWarning cut.1 cut.2 := by
  induction limits generalizing plan with
  | nil => exact (List.append_nil _).symm
  | cons limit limits ih =>
      apply (ih (plan.truncate limit)).trans
      rw [warnings_truncate, List.append_assoc]
      congr 1
      simp only [truncateEach, List.zip_cons_cons, notice]
      by_cases short : plan.excess limit = 0
      · simp [short]
      · simp [short]

theorem truncateEach_eq_nil_iff :
    (truncateEach limits plan).1.commands = [] ↔ plan.commands = [] := by
  induction limits generalizing plan with
  | nil => exact Iff.rfl
  | cons limit limits ih =>
      apply (ih (plan.truncate limit)).trans
      rw [commands_truncate, kept_eq_nil_iff]

end Each

/--
Limits applied in turn compose.  What is left are the first commands of the plan, as many
as the least of its size and those limits that are not zero; what the limits dropped adds
up to what is missing; each limit that dropped anything, and no other, adds one warning
with its own number and how many it dropped, in turn and after the warnings of the plan;
the summary stays; and what is left is empty only if the plan was.
-/
theorem truncateEach_composes (limits : List Nat) (plan : Plan) :
    let last := (truncateEach limits plan).1
    let dropped := (truncateEach limits plan).2
    last.commands <+: plan.commands ∧
      (plan.size :: limits.filter (· ≠ 0)).min? = some last.size ∧
      dropped.length = limits.length ∧
      dropped.sum + last.size = plan.size ∧
      last.warnings = plan.warnings ++
        ((limits.zip dropped).filter (·.2 ≠ 0)).map
          (fun cut => s!"plan truncated to {cut.1} commands ({cut.2} dropped)") ∧
      last.summary = plan.summary ∧
      last.isEmpty = plan.isEmpty := by
  intro last dropped
  refine ⟨truncateEach_begins limits plan, ?_, length_truncateEach limits plan,
    sum_truncateEach limits plan, warnings_truncateEach limits plan,
    summary_truncateEach limits plan, ?_⟩
  · rw [List.min?_cons', size_truncateEach limits plan]
  · rw [Bool.eq_iff_iff, isEmpty, isEmpty, List.isEmpty_iff, List.isEmpty_iff]
    exact truncateEach_eq_nil_iff limits plan

-- The second limit of three drops one of the two commands that the first has left.
example :
    truncateEach [2, 1, 0] { commands := [{}, {}, {}] } =
      ({ commands := [{}]
         warnings := [truncationWarning 2 1, truncationWarning 1 1] }, [1, 1, 0]) := by
  decide +kernel

end Plan

end PlanGuard
