import PlanGuard.Proofs.Gate.Verdict
import PlanGuard.Proofs.Plan.Truncation

/-!
# Gates and plans put together

Deny patterns only take away and allow patterns only add, so what a gate lets through
depends on which patterns it has and not on how they are listed.  The one exception is
an allow list that is empty: it asks for nothing, and its first pattern takes away.
Of plans end to end the first one is judged first, and the second one as if it stood
alone, but for the numbers of its commands.
-/

namespace PlanGuard

namespace Violation

def shifted (offset : Nat) (violation : Violation) : Violation :=
  { violation with index := violation.index + offset }

end Violation

namespace Gate

/-! ## Lists of patterns -/

/-- The second gate has no other deny patterns, and every allow pattern of the first. -/
structure Loosens (gate looser : Gate) : Prop where
  deny : ∀ pattern ∈ looser.deny, pattern ∈ gate.deny
  allow : ∀ pattern ∈ gate.allow, pattern ∈ looser.allow
  /-- A gate without an allow list is as loose in that as a gate can be. -/
  unlisted : gate.allow = [] → looser.allow = []

theorem Loosens.permits {gate looser : Gate} (loosens : gate.Loosens looser)
    {command : Command} (permits : gate.Permits command) : looser.Permits command where
  named := permits.named
  inked := permits.inked
  whole := permits.whole
  plain := permits.plain
  undenied := fun pattern listed => permits.undenied pattern (loosens.deny pattern listed)
  allowed := by
    intro listed
    have binding : gate.allow ≠ [] := fun unlisted => listed (loosens.unlisted unlisted)
    obtain ⟨pattern, inside, matched⟩ := permits.allowed binding
    exact ⟨pattern, loosens.allow pattern inside, matched⟩

theorem Loosens.passes {gate looser : Gate} (loosens : gate.Loosens looser) {plan : Plan}
    (passed : gate.violation? plan = none) : looser.violation? plan = none := by
  rw [violation?_eq_none_iff] at passed ⊢
  intro command member
  exact loosens.permits (passed command member)

theorem loosens_of_same_patterns {gate other : Gate}
    (allow : ∀ pattern, pattern ∈ other.allow ↔ pattern ∈ gate.allow)
    (deny : ∀ pattern, pattern ∈ other.deny ↔ pattern ∈ gate.deny) :
    gate.Loosens other where
  deny := fun pattern => (deny pattern).mp
  allow := fun pattern => (allow pattern).mpr
  unlisted := by
    intro unlisted
    rw [List.eq_nil_iff_forall_not_mem] at unlisted ⊢
    intro pattern listed
    exact unlisted pattern ((allow pattern).mp listed)

theorem loosens_of_fewer_denied {allow deny more : List Pattern}
    (fewer : ∀ pattern ∈ deny, pattern ∈ more) :
    Loosens ⟨allow, more⟩ ⟨allow, deny⟩ where
  deny := fewer
  allow := fun _ listed => listed
  unlisted := id

theorem loosens_of_more_allowed {allow more deny : List Pattern} (listed : allow ≠ [])
    (further : ∀ pattern ∈ allow, pattern ∈ more) :
    Loosens ⟨allow, deny⟩ ⟨more, deny⟩ where
  deny := fun _ denied => denied
  allow := further
  unlisted := fun unlisted => absurd unlisted listed

/-- Two deny lists in one refuse what either refuses. -/
theorem permits_deny_append_iff {allow first second : List Pattern} {command : Command} :
    Permits ⟨allow, first ++ second⟩ command ↔
      Permits ⟨allow, first⟩ command ∧ Permits ⟨allow, second⟩ command := by
  constructor
  · intro permits
    constructor
    · refine (loosens_of_fewer_denied ?_).permits permits
      exact fun _ listed => List.mem_append_left second listed
    · refine (loosens_of_fewer_denied ?_).permits permits
      exact fun _ listed => List.mem_append_right first listed
  · rintro ⟨permits, again⟩
    refine { permits with undenied := ?_ }
    intro pattern listed
    rcases List.mem_append.mp listed with early | late
    · exact permits.undenied pattern early
    · exact again.undenied pattern late

/-- Two allow lists in one let through what either lets through, if both ask for something. -/
theorem permits_allow_append_iff {first second deny : List Pattern} {command : Command}
    (listed : first ≠ []) (others : second ≠ []) :
    Permits ⟨first ++ second, deny⟩ command ↔
      Permits ⟨first, deny⟩ command ∨ Permits ⟨second, deny⟩ command := by
  constructor
  · intro permits
    have binding : first ++ second ≠ [] := List.append_ne_nil_of_left_ne_nil listed second
    obtain ⟨pattern, inside, matched⟩ := permits.allowed binding
    rcases List.mem_append.mp inside with early | late
    · exact .inl { permits with allowed := fun _ => ⟨pattern, early, matched⟩ }
    · exact .inr { permits with allowed := fun _ => ⟨pattern, late, matched⟩ }
  · rintro (permits | permits)
    · refine (loosens_of_more_allowed listed ?_).permits permits
      exact fun _ inside => List.mem_append_left second inside
    · refine (loosens_of_more_allowed others ?_).permits permits
      exact fun _ inside => List.mem_append_right first inside

/-! ## Plans end to end -/

theorem violationFrom?_cons (gate : Gate) (index : Nat) (command : Command)
    (rest : List Command) :
    gate.violationFrom? index (command :: rest) =
      ((gate.objection? command).map (Violation.mk index)).or
        (gate.violationFrom? (index + 1) rest) := by
  rw [violationFrom?]
  cases gate.objection? command with
  | some objection => rfl
  | none => rfl

theorem violationFrom?_append (gate : Gate) (index : Nat) (first second : List Command) :
    gate.violationFrom? index (first ++ second) =
      (gate.violationFrom? index first).or
        (gate.violationFrom? (index + first.length) second) := by
  induction first generalizing index with
  | nil => rfl
  | cons command rest ih =>
      rw [List.cons_append, violationFrom?_cons, violationFrom?_cons, ih, Option.or_assoc,
        List.length_cons, Nat.add_comm rest.length, ← Nat.add_assoc]

theorem violationFrom?_add (gate : Gate) (index offset : Nat) (commands : List Command) :
    gate.violationFrom? (index + offset) commands =
      (gate.violationFrom? index commands).map (Violation.shifted offset) := by
  induction commands generalizing index with
  | nil => rfl
  | cons command rest ih =>
      rw [violationFrom?_cons, violationFrom?_cons, Nat.add_right_comm, ih, Option.map_or,
        Option.map_map]
      rfl

/-- A plan that continues another is judged by it first. -/
theorem violation?_joined (gate : Gate) {first second whole : Plan}
    (joined : whole.commands = first.commands ++ second.commands) :
    gate.violation? whole =
      (gate.violation? first).or
        ((gate.violation? second).map (Violation.shifted first.size)) := by
  unfold violation? Plan.size
  rw [joined, violationFrom?_append, violationFrom?_add]

/-- The first commands of a plan that passes, as many as a limit leaves, pass. -/
theorem violation?_truncate {gate : Gate} {plan : Plan}
    (passed : gate.violation? plan = none) (limit : Nat) :
    gate.violation? (plan.truncate limit) = none := by
  rw [violation?_eq_none_iff] at passed ⊢
  intro command member
  rw [Plan.commands_truncate] at member
  exact passed command (Plan.mem_of_mem_kept member)

/--
How verdicts compose.  Of two deny lists in one gate each has to let a plan pass, and of
two allow lists that are not empty one of them a command.  So a gate lets the same plans
pass in whatever order its patterns stand and however often; a further deny pattern lets
no further plan pass, and a further pattern in an allow list that is not empty turns none
away.  A plan that continues another fails as that one does or, if that one passes, as
the rest does, with the number of its command counted on; and what a limit leaves of a
plan that passes passes.
-/
theorem verdict_composes :
    (∀ (allow first second : List Pattern) (plan : Plan),
      violation? ⟨allow, first ++ second⟩ plan = none ↔
        violation? ⟨allow, first⟩ plan = none ∧ violation? ⟨allow, second⟩ plan = none) ∧
    (∀ (first second deny : List Pattern) (command : Command),
      first ≠ [] → second ≠ [] →
      (objection? ⟨first ++ second, deny⟩ command = none ↔
        objection? ⟨first, deny⟩ command = none ∨
          objection? ⟨second, deny⟩ command = none)) ∧
    (∀ (gate other : Gate) (plan : Plan),
      (∀ pattern, pattern ∈ other.allow ↔ pattern ∈ gate.allow) →
      (∀ pattern, pattern ∈ other.deny ↔ pattern ∈ gate.deny) →
      (other.violation? plan = none ↔ gate.violation? plan = none)) ∧
    (∀ (allow deny more : List Pattern) (plan : Plan),
      (∀ pattern ∈ deny, pattern ∈ more) →
      violation? ⟨allow, more⟩ plan = none → violation? ⟨allow, deny⟩ plan = none) ∧
    (∀ (allow more deny : List Pattern) (plan : Plan), allow ≠ [] →
      (∀ pattern ∈ allow, pattern ∈ more) →
      violation? ⟨allow, deny⟩ plan = none → violation? ⟨more, deny⟩ plan = none) ∧
    ∀ gate : Gate,
      (∀ first second whole : Plan, whole.commands = first.commands ++ second.commands →
        gate.violation? whole =
          (gate.violation? first).or
            ((gate.violation? second).map (Violation.shifted first.size))) ∧
      ∀ plan : Plan, gate.violation? plan = none →
        ∀ limit, gate.violation? (plan.truncate limit) = none := by
  refine ⟨?_, ?_, ?_, ?_, ?_, ?_⟩
  · intro allow first second plan
    simp only [violation?_eq_none_iff, permits_deny_append_iff, forall_and]
  · intro first second deny command listed others
    rw [objection?_eq_none_iff, objection?_eq_none_iff, objection?_eq_none_iff]
    exact permits_allow_append_iff listed others
  · intro gate other plan allow deny
    constructor
    · refine (loosens_of_same_patterns ?_ ?_).passes
      · exact fun pattern => (allow pattern).symm
      · exact fun pattern => (deny pattern).symm
    · exact (loosens_of_same_patterns allow deny).passes
  · intro allow deny more plan fewer
    exact (loosens_of_fewer_denied fewer).passes
  · intro allow more deny plan listed further
    exact (loosens_of_more_allowed listed further).passes
  · intro gate
    exact ⟨fun first second whole joined => gate.violation?_joined joined,
      fun plan passed => violation?_truncate passed⟩

/-- Patterns for two commands, in two lists, in one, and in one with a repetition. -/
theorem listing_composes :
    let list : Pattern := ⟨"^ls$", (· == "ls")⟩
    let free : Pattern := ⟨"^df$", (· == "df")⟩
    let look : Plan := { commands := [{ argv := ["ls"] }, { argv := ["df"] }] }
    let write : Plan := { commands := [{ argv := ["df"] }, { argv := ["dd"] }] }
    let whole : Plan := { commands := look.commands ++ write.commands }
    let gate : Gate := ⟨[list, free], []⟩
    [list] ≠ [] ∧ [free] ≠ [] ∧ objection? ⟨[list], []⟩ { argv := ["df"] } ≠ none ∧
      gate.objection? { argv := ["df"] } = none ∧
      violation? ⟨[free, list, free], []⟩ look = none ∧
      violation? ⟨[list, free], [⟨"^dd", (· == "dd")⟩]⟩ look = none ∧
      violation? ⟨[free, ⟨"^dd", (· == "dd")⟩, list], []⟩ look = none ∧
      gate.violation? whole = some ⟨3, .notAllowed "dd"⟩ ∧
      gate.violation? (look.truncate 1) = none := by
  intro list free look write whole gate
  obtain ⟨-, allowed, same, denied, further, ends⟩ := verdict_composes
  have passed : gate.violation? look = none := by decide +kernel
  have anyway : violation? ⟨[list, free], [⟨"^dd", (· == "dd")⟩]⟩ look = none := by
    decide +kernel
  have single : objection? ⟨[free], []⟩ { argv := ["df"] } = none := by decide +kernel
  refine ⟨List.cons_ne_nil _ _, List.cons_ne_nil _ _, by decide +kernel,
    (allowed [list] [free] [] _ (List.cons_ne_nil _ _) (List.cons_ne_nil _ _)).mpr (.inr single),
    ?_, anyway, ?_, ?_, (ends gate).2 look passed 1⟩
  · refine (same gate ⟨[free, list, free], []⟩ look ?_ fun _ => Iff.rfl).mpr passed
    intro pattern
    simp only [gate, List.mem_cons, List.not_mem_nil, or_false]
    grind
  · refine further [list, free] _ [] look (List.cons_ne_nil _ _) ?_ ?_
    · intro pattern listed
      simp only [List.mem_cons, List.not_mem_nil, or_false] at listed ⊢
      grind
    · exact denied [list, free] [] _ look (List.forall_mem_nil _) anyway
  · rw [(ends gate).1 look write whole rfl, passed]
    decide +kernel

/-- The first pattern of an allow list takes away. -/
example :
    Gate.violation? {} { commands := [{ argv := ["ls"] }] } = none ∧
      Gate.violation? { allow := [⟨"^df$", (· == "df")⟩] }
          { commands := [{ argv := ["ls"] }] } = some ⟨0, .notAllowed "ls"⟩ := by
  decide +kernel

end Gate

end PlanGuard
