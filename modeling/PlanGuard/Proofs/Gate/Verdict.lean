import PlanGuard.Gate

/-!
# What the gate lets through

`Permits` lists what a command must be like, without mention of the order in
which it is checked.  A command meets no objection exactly when it is permitted,
and a plan meets none exactly when all its commands are.
-/

namespace PlanGuard

namespace Gate

structure Permits (gate : Gate) (command : Command) : Prop where
  /-- It names a program. -/
  named : command.argv ≠ []
  /-- Every argument shows at least one character. -/
  inked : ∀ argument ∈ command.argv, ∃ c ∈ argument.toList, Text.isBlank c = false
  whole : ∀ argument ∈ command.argv, '\x00' ∉ argument.toList
  plain : ∀ program, command.argv.head? = some program →
    ∀ c ∈ program.toList, c ∉ "|&;<>`$".toList
  undenied : ∀ pattern ∈ gate.deny, pattern.accepts command.render = false
  allowed : gate.allow ≠ [] →
    ∃ pattern ∈ gate.allow, pattern.accepts command.render = true

theorem allBlank_eq_false_iff {text : String} :
    Text.allBlank text = false ↔ ∃ c ∈ text.toList, Text.isBlank c = false := by
  unfold Text.allBlank
  exact List.all_eq_false.trans (by simp only [Bool.not_eq_true])

theorem hasNul_eq_false_iff {argument : String} :
    hasNul argument = false ↔ '\x00' ∉ argument.toList := by
  unfold hasNul
  rw [List.contains_eq_mem, decide_eq_false_iff_not]

theorem argumentObjection?_eq_none_iff {position : Nat} {arguments : List String} :
    argumentObjection? position arguments = none ↔
      ∀ argument ∈ arguments,
        Text.allBlank argument = false ∧ hasNul argument = false := by
  induction arguments generalizing position with
  | nil => simp [argumentObjection?]
  | cons argument rest ih =>
      unfold argumentObjection?
      rw [List.forall_mem_cons]
      cases blank : Text.allBlank argument with
      | true => simp
      | false =>
          cases broken : hasNul argument with
          | true => simp
          | false => simp [ih]

theorem programObjection?_eq_none_iff {program : String} :
    programObjection? program = none ↔
      ∀ c ∈ program.toList, c ∉ "|&;<>`$".toList := by
  unfold programObjection? isShellMetacharacter
  split
  next found =>
    obtain ⟨c, inside, special⟩ := List.any_eq_true.mp found
    rw [List.contains_eq_mem, decide_eq_true_eq] at special
    constructor
    · intro impossible
      cases impossible
    · intro clean
      exact absurd special (clean c inside)
  next clean =>
    constructor
    · intro _ c inside special
      refine clean (List.any_eq_true.mpr ⟨c, inside, ?_⟩)
      rw [List.contains_eq_mem, decide_eq_true_eq]
      exact special
    · intro _
      rfl

/-- The patterns are content when none denies and, if any allow, one allows. -/
theorem patternObjection?_eq_none_iff {gate : Gate} {line : String} :
    gate.patternObjection? line = none ↔
      (∀ pattern ∈ gate.deny, pattern.accepts line = false) ∧
        (gate.allow ≠ [] → ∃ pattern ∈ gate.allow, pattern.accepts line = true) := by
  unfold patternObjection?
  cases denied : gate.deny.find? (·.accepts line) with
  | some pattern =>
      have accepted : pattern.accepts line = true :=
        List.find?_some (p := fun pattern : Pattern => pattern.accepts line) denied
      constructor
      · intro impossible
        cases impossible
      · rintro ⟨undenied, _⟩
        have refused := undenied pattern (List.mem_of_find?_eq_some denied)
        rw [accepted] at refused
        cases refused
  | none =>
      have undenied : ∀ pattern ∈ gate.deny, pattern.accepts line = false := by
        intro pattern member
        exact Bool.not_eq_true _ ▸ List.find?_eq_none.mp denied pattern member
      have verdict : (gate.allow.isEmpty || gate.allow.any (·.accepts line)) = true ↔
          (gate.allow ≠ [] → ∃ pattern ∈ gate.allow, pattern.accepts line = true) := by
        rw [Bool.or_eq_true, List.isEmpty_iff, List.any_eq_true]
        exact Decidable.or_iff_not_imp_left
      dsimp only
      split
      next content => exact ⟨fun _ => ⟨undenied, verdict.mp content⟩, fun _ => rfl⟩
      next refused =>
        constructor
        · intro impossible
          cases impossible
        · rintro ⟨_, allowed⟩
          exact absurd (verdict.mpr allowed) refused

theorem objection?_eq_none_iff {gate : Gate} {command : Command} :
    gate.objection? command = none ↔ gate.Permits command := by
  unfold objection?
  cases named : command.argv with
  | nil =>
      constructor
      · intro impossible
        cases impossible
      · intro permits
        exact absurd named permits.named
  | cons program rest =>
      dsimp only
      rw [Option.or_eq_none_iff, Option.or_eq_none_iff,
        argumentObjection?_eq_none_iff, programObjection?_eq_none_iff,
        patternObjection?_eq_none_iff, ← named]
      constructor
      · rintro ⟨arguments, plain, undenied, allowed⟩
        refine ⟨by simp [named], ?_, ?_, ?_, undenied, allowed⟩
        · intro argument member
          exact allBlank_eq_false_iff.mp (arguments argument member).1
        · intro argument member
          exact hasNul_eq_false_iff.mp (arguments argument member).2
        · intro first head
          rw [named, List.head?_cons, Option.some.injEq] at head
          exact head ▸ plain
      · intro permits
        refine ⟨?_, permits.plain program (by rw [named, List.head?_cons]),
          permits.undenied, permits.allowed⟩
        intro argument member
        exact ⟨allBlank_eq_false_iff.mpr (permits.inked argument member),
          hasNul_eq_false_iff.mpr (permits.whole argument member)⟩

theorem violationFrom?_eq_none_iff {gate : Gate} {index : Nat}
    {commands : List Command} :
    gate.violationFrom? index commands = none ↔
      ∀ command ∈ commands, gate.Permits command := by
  induction commands generalizing index with
  | nil => simp [violationFrom?]
  | cons command rest ih =>
      unfold violationFrom?
      rw [List.forall_mem_cons, ← objection?_eq_none_iff]
      cases gate.objection? command with
      | some objection => simp
      | none => simp [ih]

theorem violation?_eq_none_iff {gate : Gate} {plan : Plan} :
    gate.violation? plan = none ↔ ∀ command ∈ plan.commands, gate.Permits command :=
  violationFrom?_eq_none_iff

theorem named_of_violation?_eq_none {gate : Gate} {plan : Plan}
    (permitted : gate.violation? plan = none) :
    ∀ command ∈ plan.commands, command.argv ≠ [] :=
  fun command member => (violation?_eq_none_iff.mp permitted command member).named

end Gate

end PlanGuard
